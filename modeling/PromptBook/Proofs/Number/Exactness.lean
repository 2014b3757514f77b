import PromptBook.Number.Binary
import Mathlib.Algebra.Group.Nat.Defs

/-!
# Numbers that a format holds

A number of a format is the nearest one to itself, so to round it to its own format changes nothing.

**Results.**  `Format.round_of_holds`, `Format.convert_of_holds`.
-/

namespace PromptBook
namespace Number

/-- A finite number of a format: the significand has all its bits, unless the exponent is the least
there is. -/
def Format.Holds (f : Format) : Binary → Prop
  | .finite _ m e =>
      m < 2 ^ f.precision ∧ (2 ^ (f.precision - 1) ≤ m ∨ e = f.least) ∧ f.least ≤ e ∧ e ≤ f.greatest
  | .infinite _ | .nan => False

variable {f : Format} {m : Nat} {e : Int}

theorem shifted_eq (base num den : Nat) (exponent : Int) :
    shifted base num den exponent =
      (num * base ^ exponent.toNat, den * base ^ (-exponent).toNat) := by
  unfold shifted
  split
  · have hzero : (-exponent).toNat = 0 := by omega
    rw [hzero, Nat.pow_zero, Nat.mul_one]
    rfl
  · have hzero : exponent.toNat = 0 := by omega
    rw [hzero, Nat.pow_zero, Nat.mul_one]
    rfl

theorem roundHalfEven_exact (m k : Nat) : roundHalfEven (m * 2 ^ k) (2 ^ k) = m := by
  have hpos : 0 < 2 ^ k := Nat.two_pow_pos k
  simp [roundHalfEven, hpos]

theorem log2_shifted (hm : m ≠ 0) (k : Nat) : (m * 2 ^ k).log2 = m.log2 + k := by
  have hpos : 0 < 2 ^ k := Nat.two_pow_pos k
  rw [Nat.log2_eq_iff (Nat.mul_ne_zero hm (Nat.ne_of_gt hpos))]
  constructor
  · rw [Nat.pow_add]
    exact Nat.mul_le_mul_right _ (Nat.log2_self_le hm)
  · rw [Nat.add_right_comm, Nat.pow_add]
    exact Nat.mul_lt_mul_of_pos_right Nat.lt_log2_self hpos

/-- The magnitude of an integer times a power of two. -/
theorem magnitude_shifted (hm : m ≠ 0) (e : Int) :
    magnitude (m * 2 ^ e.toNat) (2 ^ (-e).toNat) = m.log2 + e := by
  have hguess : ((m * 2 ^ e.toNat).log2 : Int) - (2 ^ (-e).toNat).log2 = m.log2 + e := by
    rw [log2_shifted hm, Nat.log2_two_pow]
    omega
  unfold magnitude
  simp only [hguess, shifted_eq]
  have hle : 2 ^ (-e).toNat * 2 ^ (-(-((m.log2 : Int) + e))).toNat ≤
      m * 2 ^ e.toNat * 2 ^ (-((m.log2 : Int) + e)).toNat := by
    have hexponent : (-e).toNat + (-(-((m.log2 : Int) + e))).toNat =
        m.log2 + (e.toNat + (-((m.log2 : Int) + e)).toNat) := by
      omega
    calc
      _ = 2 ^ m.log2 * 2 ^ (e.toNat + (-((m.log2 : Int) + e)).toNat) := by
        rw [← Nat.pow_add, hexponent, Nat.pow_add]
      _ ≤ m * 2 ^ (e.toNat + (-((m.log2 : Int) + e)).toNat) :=
        Nat.mul_le_mul_right _ (Nat.log2_self_le hm)
      _ = _ := by
        rw [Nat.pow_add, Nat.mul_assoc]
  rw [if_neg (Nat.not_lt.mpr hle)]

/-- The exponent under which a number of a format keeps its significand. -/
theorem exponent_of_holds {negative : Bool} (h : f.Holds (.finite negative m e)) (hm : m ≠ 0) :
    max f.least ((m.log2 : Int) + e + 1 - f.precision) = e := by
  obtain ⟨hbound, hnormal, hleast, _⟩ := h
  have hlog : m.log2 < f.precision := (Nat.log2_lt hm).mpr hbound
  rcases hnormal with hnormal | rfl
  · have hfull : f.precision - 1 ≤ m.log2 := (Nat.le_log2 hm).mpr hnormal
    omega
  · omega

namespace Format

theorem round_of_holds {negative : Bool} (h : f.Holds (.finite negative m e)) :
    f.round negative (m * 2 ^ e.toNat) (2 ^ (-e).toNat) = .finite negative m e := by
  unfold round
  by_cases hm : m = 0
  · subst hm
    have hleast : e = f.least := by
      obtain ⟨_, hnormal | hleast, _⟩ := h
      · exact absurd hnormal (Nat.not_le.mpr (Nat.two_pow_pos _))
      · exact hleast
    simp [hleast]
  · have hnum : m * 2 ^ e.toNat ≠ 0 := Nat.mul_ne_zero hm (Nat.ne_of_gt (Nat.two_pow_pos _))
    have hexponent : e.toNat + (-e).toNat = (-e).toNat + (-(-e)).toNat := by
      omega
    have hsignificand : roundHalfEven (m * 2 ^ e.toNat * 2 ^ (-e).toNat)
        (2 ^ (-e).toNat * 2 ^ (-(-e)).toNat) = m := by
      rw [Nat.mul_assoc, ← Nat.pow_add, ← Nat.pow_add, hexponent, roundHalfEven_exact]
    have hfits : m ≠ Nat.pow 2 f.precision := Nat.ne_of_lt h.1
    have hgreatest : ¬e > f.greatest := Int.not_lt.mpr h.2.2.2
    simp only [hnum, if_false, magnitude_shifted hm, exponent_of_holds h hm, shifted_eq,
      hsignificand, hfits, hgreatest]

/-- A number that a format holds is the nearest one to itself. -/
theorem convert_of_holds {x : Binary} (h : f.Holds x) : f.convert x = x := by
  cases x with
  | finite negative m e =>
      simp only [convert, shifted_eq, Nat.one_mul]
      exact round_of_holds h
  | infinite negative => rfl
  | nan => rfl

end Format

end Number
end PromptBook

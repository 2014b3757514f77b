import PromptBook.Text.Blank
import Mathlib.Data.List.Forall2

/-!
# Letters in either case

Some words may be written in capitals.  Two texts are the same but for that if they are character by
character: each is that of the other text, or the one is an ASCII capital and the other its small
letter.

**Results.**
* `sameLetter_iff`, `sameButCase_iff`: comparing texts in lower case.
-/

namespace PromptBook
namespace Text

variable {c d : Char} {cs ds : List Char}

/-- An ASCII capital and its small letter, which come 32 apart. -/
def CapitalOf (c d : Char) : Prop :=
  'A' ≤ c ∧ c ≤ 'Z' ∧ d.toNat = c.toNat + 32

/-- The same character, or the same ASCII letter in the two cases. -/
def SameLetter (c d : Char) : Prop :=
  c = d ∨ CapitalOf c d ∨ CapitalOf d c

/-- Two texts that are the same but for the case of ASCII letters. -/
def SameButCase (cs ds : List Char) : Prop :=
  List.Forall₂ SameLetter cs ds

theorem toNat_toLower (h : 'A' ≤ c ∧ c ≤ 'Z') : c.toLower.toNat = c.toNat + 32 := by
  have hbound : c.toNat ≤ 90 := h.2
  have hlower : c.toLower.val = c.val + 32 :=
    congrArg Char.val (dif_pos h)
  show c.toLower.val.toNat = c.val.toNat + 32
  rw [hlower, UInt32.toNat_add]
  exact Nat.mod_eq_of_lt (by show c.toNat + 32 < 4294967296; omega)

theorem toLower_of_not_capital (h : ¬('A' ≤ c ∧ c ≤ 'Z')) : c.toLower = c :=
  dif_neg h

/-- A character in lower case is itself, or the small letter of a capital. -/
theorem toLower_cases (c : Char) : c.toLower = c ∨ CapitalOf c c.toLower := by
  by_cases h : 'A' ≤ c ∧ c ≤ 'Z'
  · exact .inr ⟨h.1, h.2, toNat_toLower h⟩
  · exact .inl (toLower_of_not_capital h)

theorem toLower_of_capitalOf (h : CapitalOf c d) : c.toLower = d ∧ d.toLower = d := by
  obtain ⟨hfirst, hlast, hnumber⟩ := h
  refine ⟨Char.toNat_inj.mp ((toNat_toLower ⟨hfirst, hlast⟩).trans hnumber.symm), ?_⟩
  refine toLower_of_not_capital fun hcapital => ?_
  have hfirst' : 65 ≤ c.toNat := hfirst
  have hlast' : d.toNat ≤ 90 := hcapital.2
  omega

theorem sameLetter_iff : SameLetter c d ↔ c.toLower = d.toLower := by
  constructor
  · rintro (rfl | h | h)
    · rfl
    · obtain ⟨hc, hd⟩ := toLower_of_capitalOf h
      rw [hc, hd]
    · obtain ⟨hd, hc⟩ := toLower_of_capitalOf h
      rw [hc, hd]
  · intro h
    rcases toLower_cases c with hc | hc <;> rcases toLower_cases d with hd | hd
    · exact .inl (by rw [← hc, h, hd])
    · rw [← h, hc] at hd
      exact .inr (.inr hd)
    · rw [h, hd] at hc
      exact .inr (.inl hc)
    · have hnumbers : c.toNat + 32 = d.toNat + 32 := by
        rw [← hc.2.2, h, hd.2.2]
      exact .inl (Char.toNat_inj.mp (Nat.add_right_cancel hnumbers))

theorem sameButCase_iff : SameButCase cs ds ↔ asciiLower cs = asciiLower ds := by
  rw [asciiLower, asciiLower, ← List.forall₂_eq_eq_eq, List.forall₂_map_left_iff,
    List.forall₂_map_right_iff]
  simp only [SameButCase, ← sameLetter_iff]

end Text
end PromptBook

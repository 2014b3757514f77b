import PromptBook.Time.Timestamp
import Mathlib.Algebra.Group.Nat.Defs
import Mathlib.Data.List.Basic

/-!
# Timestamps that are written and read

A timestamp of the calendar that is written and then read comes back as it was.  Each field is
written with all its places, so that reading it stops where the next mark stands.

**Results.**
* `readNumber_append`: digits before something else.
* `readField_padded`, `readYear_writeYear`, `readFraction_writeFraction`: the fields.
* `read_write`: the whole timestamp.
-/

namespace PromptBook
namespace Timestamp

/-- A moment that the calendar has. -/
structure Valid (t : Timestamp) : Prop where
  year : firstYear ≤ t.year ∧ t.year ≤ lastYear
  month : 1 ≤ t.month ∧ t.month ≤ 12
  day : 1 ≤ t.day ∧ t.day ≤ daysIn t.year t.month
  hour : t.hour ≤ 23
  minute : t.minute ≤ 59
  second : t.second ≤ 60
  nanosecond : t.nanosecond < 1000000000

variable {cs ds rest : List Char} {places n : Nat} {year : Int}

section Digits

theorem decimal_eq_ofDigitChars (ds : List Char) : Text.decimal ds = Nat.ofDigitChars 10 ds 0 := by
  unfold Text.decimal Nat.ofDigitChars
  congr 1
  funext n c
  rw [Nat.mul_comm]
  rfl

theorem decimal_zeros (k : Nat) (ds : List Char) :
    Text.decimal (List.replicate k '0' ++ ds) = Text.decimal ds := by
  induction k with
  | zero => rfl
  | succ k ih => exact ih

theorem decimal_padded (places n : Nat) : Text.decimal (padded places n) = n := by
  rw [padded, decimal_zeros, decimal_eq_ofDigitChars]
  exact Nat.ofDigitChars_toDigits (by decide) (by decide)

theorem isDigit_of_mem_padded {c : Char} (hc : c ∈ padded places n) : c.isDigit = true := by
  rw [padded, List.mem_append, List.mem_replicate] at hc
  rcases hc with ⟨_, rfl⟩ | hc
  · rfl
  · exact Nat.isDigit_of_mem_toDigits (by decide) (by decide) hc

theorem length_padded (hplaces : 0 < places) (hn : n < 10 ^ places) :
    (padded places n).length = places := by
  have hle := (Nat.length_toDigits_le_iff (b := 10) (by decide) hplaces).mpr hn
  rw [padded, List.length_append, List.length_replicate]
  omega

theorem padded_ne_nil (places n : Nat) : padded places n ≠ [] := by
  simp [padded, Nat.toDigits_ne_nil]

theorem not_isBlank_of_isDigit {c : Char} (hc : c.isDigit = true) : Text.isBlank c = false := by
  have hbounds : 48 ≤ c.toNat ∧ c.toNat ≤ 57 := by
    simpa [Char.isDigit, UInt32.le_iff_toNat_le] using hc
  simp only [Text.isBlank, Bool.or_eq_false_iff, Bool.and_eq_false_iff, decide_eq_false_iff_not,
    beq_eq_false_iff_ne]
  omega

/-- White space before a padded number is passed over: there is none. -/
theorem dropWhile_padded (places n : Nat) (rest : List Char) :
    (padded places n ++ rest).dropWhile Text.isBlank = padded places n ++ rest := by
  cases hds : padded places n with
  | nil => exact absurd hds (padded_ne_nil places n)
  | cons d ds =>
      have hd : d ∈ padded places n := hds ▸ List.mem_cons_self
      have hblank := not_isBlank_of_isDigit (isDigit_of_mem_padded hd)
      simp [hblank]

end Digits

section Fields

/-- A text that goes on with something else than a digit. -/
def Stops (rest : List Char) : Prop :=
  ∀ c ∈ rest.head?, c.isDigit = false

theorem takeWhile_of_stops (h : Stops rest) (k : Nat) :
    (rest.take k).takeWhile Char.isDigit = [] := by
  cases rest with
  | nil => simp
  | cons c rest =>
      have hc : c.isDigit = false := h c rfl
      cases k with
      | zero => rfl
      | succ k => simp [hc]

/-- A number is read up to where there is no digit, or no more are asked for. -/
theorem readNumber_padded {most : Nat} (hplaces : (padded places n).length ≤ most)
    (hstops : (padded places n).length = most ∨ Stops rest) (hsmall : n < 2 ^ 63) :
    readNumber most (padded places n ++ rest) = .ok (n, rest) := by
  have htaken : ((padded places n ++ rest).take most).takeWhile Char.isDigit = padded places n := by
    rw [List.take_append, List.take_of_length_le hplaces,
      List.takeWhile_append_of_pos fun c hc => isDigit_of_mem_padded hc]
    rcases hstops with hmost | hstops
    · simp [hmost]
    · rw [takeWhile_of_stops hstops, List.append_nil]
  unfold readNumber
  rw [htaken]
  split
  · rename_i hnil
    exact absurd hnil (padded_ne_nil places n)
  · rw [decimal_padded, List.drop_left]
    exact if_pos hsmall

theorem readField_padded {least most : Nat} (hleast : least ≤ n) (hmost : n ≤ most)
    (hplaces : n < 100) : readField least most (padded 2 n ++ rest) = .ok (n, rest) := by
  have hlength : (padded 2 n).length = 2 := length_padded (by decide) hplaces
  have hread : readNumber 2 (padded 2 n ++ rest) = .ok (n, rest) :=
    readNumber_padded (Nat.le_of_eq hlength) (.inl hlength) (by omega)
  rw [readField, dropWhile_padded, hread]
  exact if_pos ⟨hleast, hmost⟩

theorem readYear_writeYear (hfirst : firstYear ≤ year) (hlast : year ≤ lastYear)
    (hstops : Stops rest) : readYear (writeYear year ++ rest) = .ok (year, rest) := by
  unfold firstYear at hfirst
  unfold lastYear at hlast
  have hrange : -2147483648 ≤ year ∧ year ≤ 2147483647 := by
    omega
  by_cases hplain : 0 ≤ year ∧ year ≤ 9999
  · have hlength : (padded 4 year.toNat).length = 4 := length_padded (by decide) (by omega)
    have hread : readNumber 4 (padded 4 year.toNat ++ rest) = .ok (year.toNat, rest) :=
      readNumber_padded (Nat.le_of_eq hlength) (.inl hlength) (by omega)
    have hyear : (year.toNat : Int) = year := by
      omega
    rw [writeYear, if_pos hplain, readYear, dropWhile_padded]
    -- The first character is a digit, and so no sign.
    cases hds : padded 4 year.toNat with
    | nil => exact absurd hds (padded_ne_nil _ _)
    | cons d ds =>
        have hd : d.isDigit = true := isDigit_of_mem_padded (hds ▸ List.mem_cons_self)
        rw [hds] at hread
        split
        · rename_i heq
          obtain ⟨rfl, _⟩ := List.cons.inj heq
          cases hd
        · rename_i heq
          obtain ⟨rfl, _⟩ := List.cons.inj heq
          cases hd
        · rw [hread]
          simp [Except.map, bind, Except.bind, hyear, hrange]
  · have hread : readNumber (padded 4 year.natAbs ++ rest).length (padded 4 year.natAbs ++ rest) =
        .ok (year.natAbs, rest) :=
      readNumber_padded (by simp) (.inr hstops) (by omega)
    rw [writeYear, if_neg hplain]
    by_cases hnegative : year < 0
    · have hyear : -(year.natAbs : Int) = year := by
        omega
      have hsign : ('-' :: (padded 4 year.natAbs ++ rest)).dropWhile Text.isBlank =
          '-' :: (padded 4 year.natAbs ++ rest) := rfl
      rw [if_pos hnegative, readYear, List.cons_append, hsign]
      simp only [hread, Except.map, bind, Except.bind, hyear, hrange, and_self, if_true]
    · have hyear : (year.natAbs : Int) = year := by
        omega
      have hsign : ('+' :: (padded 4 year.natAbs ++ rest)).dropWhile Text.isBlank =
          '+' :: (padded 4 year.natAbs ++ rest) := rfl
      rw [if_neg hnegative, readYear, List.cons_append, hsign]
      simp only [hread, Except.map, bind, Except.bind, hyear, hrange, and_self, if_true]

/-- A fraction of some places. -/
theorem readFraction_padded {m : Nat} (hplaces : 0 < places ∧ places ≤ 9) (hm : m < 10 ^ places) :
    readFraction ('.' :: (padded places m ++ ['Z'])) = .ok (m * 10 ^ (9 - places), ['Z']) := by
  have hlength : (padded places m).length = places := length_padded hplaces.1 hm
  have hsmall : m < 2 ^ 63 := by
    have hpow : 10 ^ places ≤ 10 ^ 9 := Nat.pow_le_pow_right (by decide) hplaces.2
    omega
  have hread : readNumber 9 (padded places m ++ ['Z']) = .ok (m, ['Z']) :=
    readNumber_padded (by omega) (.inr (by simp [Stops])) hsmall
  have hfound : (padded places m ++ ['Z']).length - ['Z'].length = places := by
    simp [hlength]
  simp only [readFraction, hread, bind, Except.bind, hfound]
  rfl

theorem readFraction_writeFraction (h : n < 1000000000) :
    readFraction (writeFraction n ++ ['Z']) = .ok (n, ['Z']) := by
  unfold writeFraction
  by_cases hzero : n = 0
  · rw [if_pos hzero, hzero]
    rfl
  rw [if_neg hzero]
  by_cases hmillis : n % 1000000 = 0
  · rw [if_pos hmillis, List.cons_append, readFraction_padded (by decide) (by omega)]
    have hn : n / 1000000 * 10 ^ (9 - 3) = n := by
      omega
    rw [hn]
  rw [if_neg hmillis]
  by_cases hmicros : n % 1000 = 0
  · rw [if_pos hmicros, List.cons_append, readFraction_padded (by decide) (by omega)]
    have hn : n / 1000 * 10 ^ (9 - 6) = n := by
      omega
    rw [hn]
  · rw [if_neg hmicros, List.cons_append, readFraction_padded (by decide) (by omega)]
    simp

end Fields

theorem daysIn_le (year : Int) (month : Nat) : daysIn year month ≤ 31 := by
  unfold daysIn
  repeat' split
  all_goals omega

/-- A moment at no offset is the same everywhere. -/
theorem ofFields_of_valid {t : Timestamp} (h : t.Valid) : ofFields t 0 = .ok t := by
  have hhour := h.hour
  have hminute := h.minute
  have hmoment : t.universal 0 = t := by
    have hminutes : ((t.hour : Int) * 60 + t.minute - 0) % 1440 = t.hour * 60 + t.minute := by
      omega
    have hback : ¬(t.hour : Int) * 60 + t.minute - 0 < 0 := by
      omega
    have hahead : ¬1440 ≤ (t.hour : Int) * 60 + t.minute - 0 := by
      omega
    have hhours : ((t.hour : Int) * 60 + t.minute).toNat / 60 = t.hour := by
      omega
    have hrest : ((t.hour : Int) * 60 + t.minute).toNat % 60 = t.minute := by
      omega
    simp only [universal, hminutes, if_neg hback, if_neg hahead, hhours, hrest]
  have hyear : ¬(t.year < firstYear ∨ lastYear < t.year) := by
    have hbounds := h.year
    omega
  have hday : ¬(t.year < firstYear ∨ lastYear < t.year ∨ daysIn t.year t.month < t.day) := by
    have hbounds := h.day
    omega
  rw [ofFields, if_neg hday, hmoment]
  simp [hyear]

/-- A timestamp of the calendar is read as it was written. -/
theorem read_write {t : Timestamp} (h : t.Valid) : read t.write = .ok t := by
  have hmonth : t.month ≤ 12 := h.month.2
  have hday : t.day ≤ 31 := Nat.le_trans h.day.2 (daysIn_le _ _)
  have hhour := h.hour
  have hminute := h.minute
  have hsecond := h.second
  have hyear : ∀ rest, readYear (writeYear t.year ++ '-' :: rest) = .ok (t.year, '-' :: rest) :=
    fun rest => readYear_writeYear h.year.1 h.year.2 (by simp [Stops])
  have hmark : ∀ rest, readMark '-' ('-' :: rest) = .ok rest := fun _ => rfl
  have hcolon : ∀ rest, readMark ':' (':' :: rest) = .ok rest := fun _ => rfl
  have hblank : ['Z'].dropWhile Text.isBlank = ['Z'] := rfl
  have hoffset : readOffset ['Z'] = .ok (0, []) := rfl
  rw [read, write]
  simp only [String.toList_ofList, List.append_assoc, List.cons_append, hyear, hmark, hcolon,
    readField_padded h.month.1 hmonth (by omega), readField_padded h.day.1 hday (by omega),
    readField_padded (Nat.zero_le _) hhour (by omega),
    readField_padded (Nat.zero_le _) hminute (by omega),
    readField_padded (Nat.zero_le _) hsecond (by omega),
    readFraction_writeFraction h.nanosecond, hblank, hoffset, bind, Except.bind]
  exact ofFields_of_valid h

end Timestamp
end PromptBook

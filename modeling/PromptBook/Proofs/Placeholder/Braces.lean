import PromptBook.Placeholder

/-!
# Braces, white space and identifiers

The three classes of characters that the grammar of tokens tells apart have nothing in common:
neither white space nor an identifier holds a brace, and an identifier holds no white space.
-/

namespace PromptBook
namespace Placeholder

/-- A text without braces of either kind. -/
def BraceFree (cs : List Char) : Prop :=
  ∀ c ∈ cs, isBrace c = false

instance (cs : List Char) : Decidable (BraceFree cs) :=
  List.decidableBAll (fun c => isBrace c = false) cs

section Characters

variable {c : Char}

theorem isBrace_eq_false_iff : isBrace c = false ↔ c ≠ '{' ∧ c ≠ '}' := by
  simp [isBrace]

theorem isBrace_of_isBlank (h : Text.isBlank c = true) : isBrace c = false := by
  rw [isBrace_eq_false_iff]
  constructor
  · rintro rfl
    exact absurd h (by decide)
  · rintro rfl
    exact absurd h (by decide)

theorem isBrace_of_continuesIdentifier (h : continuesIdentifier c = true) :
    isBrace c = false := by
  rw [isBrace_eq_false_iff]
  constructor
  · rintro rfl
    exact absurd h (by decide)
  · rintro rfl
    exact absurd h (by decide)

/-- The ranges of the characters that may stand in an identifier. -/
theorem toNat_of_continuesIdentifier (h : continuesIdentifier c = true) :
    (65 ≤ c.toNat ∧ c.toNat ≤ 90) ∨ (97 ≤ c.toNat ∧ c.toNat ≤ 122) ∨
      (48 ≤ c.toNat ∧ c.toNat ≤ 57) ∨ c.toNat = 95 := by
  have hletter : c.isAlpha = (decide ('A'.val ≤ c.val ∧ c.val ≤ 'Z'.val) ||
      (decide ('a'.val ≤ c.val) && decide (c.val ≤ 'z'.val))) := rfl
  have hdigit : c.isDigit = (decide ('0'.val ≤ c.val) && decide (c.val ≤ '9'.val)) := rfl
  simp only [continuesIdentifier, Char.isAlphanum, hletter, hdigit, Bool.or_eq_true,
    Bool.and_eq_true, decide_eq_true_eq, beq_iff_eq, UInt32.le_iff_toNat_le] at h
  rcases h with ((h | h) | h) | rfl
  · exact Or.inl h
  · exact Or.inr (Or.inl h)
  · exact Or.inr (Or.inr (Or.inl h))
  · exact Or.inr (Or.inr (Or.inr rfl))

/-- Letters, digits and the underscore are no white space. -/
theorem isBlank_of_continuesIdentifier (h : continuesIdentifier c = true) :
    Text.isBlank c = false := by
  have hword := toNat_of_continuesIdentifier h
  simp only [Text.isBlank, Bool.or_eq_false_iff, Bool.and_eq_false_iff, decide_eq_false_iff_not,
    beq_eq_false_iff_ne]
  omega

theorem ne_quote_of_continuesIdentifier (h : continuesIdentifier c = true) : c ≠ '"' := by
  rintro rfl
  exact absurd h (by decide)

theorem continuesIdentifier_of_beginsIdentifier (h : beginsIdentifier c = true) :
    continuesIdentifier c = true := by
  simp only [beginsIdentifier, continuesIdentifier, Char.isAlphanum, Bool.or_eq_true] at h ⊢
  rcases h with h | h
  · exact Or.inl (Or.inl h)
  · exact Or.inr h

end Characters

section Texts

variable {a b cs : List Char}

theorem BraceFree.nil : BraceFree [] := by
  intro c hc
  cases hc

theorem BraceFree.append (ha : BraceFree a) (hb : BraceFree b) : BraceFree (a ++ b) := by
  intro c hc
  rcases List.mem_append.mp hc with hc | hc
  · exact ha c hc
  · exact hb c hc

theorem BraceFree.of_blank (h : ∀ c ∈ cs, Text.isBlank c = true) : BraceFree cs :=
  fun c hc => isBrace_of_isBlank (h c hc)

theorem BraceFree.of_isBlankText {text : String} (h : Text.isBlankText text = true) :
    BraceFree text.toList := by
  apply BraceFree.of_blank
  simpa [Text.isBlankText, Text.blank] using h

/-- Every character of an identifier may stand in one. -/
theorem continuesIdentifier_of_mem (h : isIdentifier cs = true) {c : Char} (hc : c ∈ cs) :
    continuesIdentifier c = true := by
  cases cs with
  | nil =>
      cases hc
  | cons d rest =>
      simp only [isIdentifier, Bool.and_eq_true, List.all_eq_true] at h
      rcases List.mem_cons.mp hc with rfl | hc
      · exact continuesIdentifier_of_beginsIdentifier h.1
      · exact h.2 c hc

theorem BraceFree.of_isIdentifier (h : isIdentifier cs = true) : BraceFree cs :=
  fun _ hc => isBrace_of_continuesIdentifier (continuesIdentifier_of_mem h hc)

theorem ne_nil_of_isIdentifier (h : isIdentifier cs = true) : cs ≠ [] := by
  rintro rfl
  cases h

end Texts

end Placeholder
end PromptBook

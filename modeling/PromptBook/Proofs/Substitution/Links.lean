import PromptBook.Proofs.Substitution.Markup
import PromptBook.Proofs.Text.Trimming

/-!
# Links of unsafe schemes

A value is looked at in its escaped form to tell whether it is a link of an unsafe scheme.  That
makes no difference: escaping changes a text from its first character that opens markup on, and no
scheme has such a character or the `&` that comes in its place, so a scheme stands at the beginning
of both texts or ends before that character in neither.

**Results.**
* `unsafeLink_append_cons_iff`: what stands after a character that no scheme has does not matter.
* `unsafeLink_escape_iff`: escaping makes no link safe and none unsafe.
* `sanitized_eq`: the text of a value in the form in which it is put in.
* `Becomes.not_unsafeLink`: what is put in for a token is no link of an unsafe scheme.
-/

namespace PromptBook
namespace Substitution

open Placeholder (BraceFree Piece)

variable {a b cs : List Char} {c : Char} {values : Values} {inner : List Char} {name : String}

section Schemes

/-- A text is a link of an unsafe scheme: white space, control characters and case apart, it begins
with the scheme. -/
def UnsafeLink (cs : List Char) : Prop :=
  ∃ scheme ∈ unsafeSchemes, scheme.toList <+: normalized cs

theorem isUnsafeLink_iff : isUnsafeLink cs = true ↔ UnsafeLink cs := by
  simp [isUnsafeLink, UnsafeLink]

instance (cs : List Char) : Decidable (UnsafeLink cs) :=
  decidable_of_iff (isUnsafeLink cs = true) isUnsafeLink_iff

/-- A beginning without some character ends before that character. -/
theorem prefix_append_cons_iff {scheme : List Char} (h : c ∉ scheme) :
    scheme <+: a ++ c :: b ↔ scheme <+: a := by
  constructor
  · intro hscheme
    rcases Nat.lt_or_ge a.length scheme.length with hlt | hge
    · have hthrough : a ++ [c] <+: a ++ c :: b := ⟨b, by simp⟩
      have hlength : (a ++ [c]).length ≤ scheme.length := by
        rw [List.length_append, List.length_singleton]
        omega
      have hinside : a ++ [c] <+: scheme :=
        List.prefix_of_prefix_length_le hthrough hscheme hlength
      exact absurd (hinside.subset (by simp)) h
    · exact List.prefix_of_prefix_length_le hscheme (List.prefix_append a _) hge
  · intro hscheme
    exact hscheme.trans (List.prefix_append a _)

theorem normalized_append (a b : List Char) :
    normalized (a ++ b) = normalized a ++ normalized b := by
  simp [normalized]

/-- A character that a reader of links sees as it is, and that no unsafe scheme has. -/
structure Foreign (c : Char) : Prop where
  seen : normalized [c] = [c]
  absent : ∀ scheme ∈ unsafeSchemes, c ∉ scheme.toList

theorem foreign_ampersand : Foreign '&' :=
  ⟨by decide, by decide⟩

theorem foreign_of_opensMarkup (h : opensMarkup c = true) : Foreign c := by
  rcases opensMarkup_iff.mp h with rfl | rfl | rfl | rfl
  · exact ⟨by decide, by decide⟩
  · exact ⟨by decide, by decide⟩
  · exact ⟨by decide, by decide⟩
  · exact ⟨by decide, by decide⟩

/-- Whether a text is an unsafe link is settled before a character that no scheme has. -/
theorem unsafeLink_append_cons_iff (hc : Foreign c) (a b : List Char) :
    UnsafeLink (a ++ c :: b) ↔ UnsafeLink a := by
  have hnormalized : normalized (a ++ c :: b) = normalized a ++ c :: normalized b := by
    rw [normalized_append, ← List.singleton_append, normalized_append, hc.seen]
    rfl
  unfold UnsafeLink
  rw [hnormalized]
  constructor
  · rintro ⟨scheme, hscheme, hbegins⟩
    exact ⟨scheme, hscheme, (prefix_append_cons_iff (hc.absent scheme hscheme)).mp hbegins⟩
  · rintro ⟨scheme, hscheme, hbegins⟩
    exact ⟨scheme, hscheme, (prefix_append_cons_iff (hc.absent scheme hscheme)).mpr hbegins⟩

end Schemes

section Escaping

theorem escape_append (a b : List Char) : escape (a ++ b) = escape a ++ escape b :=
  List.flatMap_append

theorem escape_eq_self (h : ∀ c ∈ cs, opensMarkup c = false) : escape cs = cs := by
  calc
    escape cs = cs.flatMap fun c => [c] :=
      List.flatMap_congr fun c hc => escapeChar_eq_singleton (h c hc)
    _ = cs := List.flatMap_singleton' cs

/-- Every character reference begins with an ampersand. -/
theorem exists_escapeChar_eq_cons (h : opensMarkup c = true) :
    ∃ tail, escapeChar c = '&' :: tail := by
  rcases opensMarkup_iff.mp h with rfl | rfl | rfl | rfl
  · exact ⟨_, rfl⟩
  · exact ⟨_, rfl⟩
  · exact ⟨_, rfl⟩
  · exact ⟨_, rfl⟩

/-- Escaping makes no link safe and none unsafe. -/
theorem unsafeLink_escape_iff (cs : List Char) : UnsafeLink (escape cs) ↔ UnsafeLink cs := by
  cases hfirst : cs.find? opensMarkup with
  | none =>
      have hplain : ∀ c ∈ cs, opensMarkup c = false := by
        simpa using List.find?_eq_none.mp hfirst
      rw [escape_eq_self hplain]
  | some c =>
      -- Before the first character that opens markup the two texts are the same.
      obtain ⟨hopens, a, b, rfl, ha⟩ := List.find?_eq_some_iff_append.mp hfirst
      have hplain : ∀ c ∈ a, opensMarkup c = false := by
        simpa using ha
      obtain ⟨tail, htail⟩ := exists_escapeChar_eq_cons hopens
      have hescape : escape (a ++ c :: b) = a ++ '&' :: (tail ++ escape b) := by
        rw [escape_append, escape_eq_self hplain]
        simp [escape, htail]
      rw [hescape, unsafeLink_append_cons_iff foreign_ampersand,
        unsafeLink_append_cons_iff (foreign_of_opensMarkup hopens)]

end Escaping

section Values

theorem sanitized_eq (value : Json) :
    sanitized value =
      if UnsafeLink (valueText value).toList then [] else escape (valueText value).toList := by
  simp only [sanitized, isUnsafeLink_iff, unsafeLink_escape_iff]

theorem not_unsafeLink_nil : ¬UnsafeLink [] := by
  decide

/-- What is put in for a token is no link of an unsafe scheme. -/
theorem Becomes.not_unsafeLink (h : Becomes values (.token inner) cs) : ¬UnsafeLink cs := by
  cases h with
  | @value _ name value hname hvalue =>
      rw [sanitized_eq]
      split
      · exact not_unsafeLink_nil
      · rename_i hsafe
        rwa [unsafeLink_escape_iff]
  | nothing hnone =>
      exact not_unsafeLink_nil

/-- A token that refers to a variable holds an identifier and white space, and so no brace. -/
theorem braceFree_of_names (h : (Piece.token inner).Names name) : BraceFree inner := by
  obtain ⟨_, heq, htrim, hid⟩ := h
  cases heq
  obtain ⟨lead, trail, hlead, htrail, hinner⟩ := Text.exists_trimOf Text.isBlank inner
  have hname : BraceFree (Text.trim inner) := by
    rw [htrim]
    exact .of_isIdentifier hid
  rw [hinner]
  exact (BraceFree.of_blank hlead).append (hname.append (.of_blank htrail))

end Values

end Substitution
end PromptBook

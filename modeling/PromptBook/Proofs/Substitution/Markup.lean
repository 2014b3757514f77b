import PromptBook.Proofs.Substitution.SinglePass

/-!
# Markup in values

Angle brackets and quotes open markup.  A value never brings one of them into a text, whatever kind
of value it is and however deep they stand in it, so those that come out of a substitution are those
that the text has outside its tokens.

**Results.**
* `filter_escape`, `filter_sanitized`: no escaped text has such a character, and no sanitized one.
* `markup_of_substitute`: which of them come out of a substitution.
-/

namespace PromptBook
namespace Substitution

open Placeholder (Piece Reading)

variable {values : Values} {p : Piece} {cs : List Char} {c : Char}

/-- A character that opens markup. -/
def opensMarkup (c : Char) : Bool :=
  c == '<' || c == '>' || c == '"' || c == '\''

theorem opensMarkup_iff : opensMarkup c = true ↔ c = '<' ∨ c = '>' ∨ c = '"' ∨ c = '\'' := by
  simp [opensMarkup, or_assoc]

/-- Every other character is escaped as itself. -/
theorem escapeChar_eq_singleton (h : opensMarkup c = false) : escapeChar c = [c] := by
  unfold escapeChar
  split
  · cases h
  · cases h
  · cases h
  · cases h
  · rfl

theorem filter_escapeChar (c : Char) : (escapeChar c).filter opensMarkup = [] := by
  cases h : opensMarkup c with
  | false =>
      rw [escapeChar_eq_singleton h]
      simp [h]
  | true =>
      rcases opensMarkup_iff.mp h with rfl | rfl | rfl | rfl
      · decide
      · decide
      · decide
      · decide

/-- An escaped text has no character that opens markup. -/
theorem filter_escape (cs : List Char) : (escape cs).filter opensMarkup = [] := by
  simp [escape, List.filter_flatMap, filter_escapeChar]

theorem filter_sanitized (value : Json) : (sanitized value).filter opensMarkup = [] := by
  simp only [sanitized]
  split
  · rfl
  · exact filter_escape _

/-- What a piece of a text says outside tokens. -/
def outside : Piece → List Char
  | .char c => [c]
  | .token _ => []

/-- Of the characters that open markup, a piece keeps those outside tokens. -/
theorem Becomes.filter_eq (h : Becomes values p cs) :
    cs.filter opensMarkup = (outside p).filter opensMarkup := by
  cases h with
  | char c =>
      rfl
  | value hname hvalue =>
      obtain ⟨inner, rfl, -, -⟩ := hname
      exact filter_sanitized _
  | nothing hnone =>
      rfl

/-- What is outside tokens stands in the text. -/
theorem outside_sublist (p : Piece) : (outside p).Sublist p.text := by
  cases p with
  | char c =>
      exact List.Sublist.refl _
  | token inner =>
      exact List.nil_sublist _

/--
The characters of a substituted text that open markup are, one for one and in order, those that
stand in the text outside its tokens.  So none come out of a text without them.
-/
theorem markup_of_substitute (values : Values) (text : String) :
    (∃ ps, (∀ qs, Reading text.toList qs ↔ qs = ps) ∧
        (substitute values text).toList.filter opensMarkup =
          (ps.flatMap outside).filter opensMarkup) ∧
      ((∀ c ∈ text.toList, opensMarkup c = false) →
        ∀ c ∈ (substitute values text).toList, opensMarkup c = false) := by
  have hfilter : (substitute values text).toList.filter opensMarkup =
      ((Placeholder.pieces text.toList).flatMap outside).filter opensMarkup := by
    rw [toList_substitute, List.filter_flatMap, List.filter_flatMap]
    exact List.flatMap_congr fun p _ => (becomes_replacement values p).filter_eq
  refine ⟨⟨_, fun qs => Placeholder.reading_iff, hfilter⟩, ?_⟩
  intro hplain c hc
  by_contra hmarkup
  have hout : c ∈ (Placeholder.pieces text.toList).flatMap outside := by
    have hmem : c ∈ (substitute values text).toList.filter opensMarkup :=
      List.mem_filter.mpr ⟨hc, by simpa using hmarkup⟩
    rw [hfilter] at hmem
    exact (List.mem_filter.mp hmem).1
  obtain ⟨p, hp, hcp⟩ := List.mem_flatMap.mp hout
  have hspelled : c ∈ Placeholder.spelled (Placeholder.pieces text.toList) :=
    List.mem_flatMap.mpr ⟨p, hp, (outside_sublist p).subset hcp⟩
  rw [Placeholder.spelled_pieces] at hspelled
  exact hmarkup (hplain c hspelled)

/-- A line about someone. -/
def aboutLine : String := "About: \x7b\x7babout\x7d\x7d"

/-- A script, in an object with quotes of its own. -/
def scripted : Values :=
  [("about", .object [("bio", .array [.string "<script>alert('x')</script>", .null])])]

theorem markup_of_aboutLine :
    (∀ c ∈ aboutLine.toList, opensMarkup c = false) ∧
      ∀ c ∈ (substitute scripted aboutLine).toList, opensMarkup c = false := by
  have hall : aboutLine.toList.all (!opensMarkup ·) = true := by
    decide
  have hplain : ∀ c ∈ aboutLine.toList, opensMarkup c = false := by
    simpa using List.all_eq_true.mp hall
  exact ⟨hplain, (markup_of_substitute scripted aboutLine).2 hplain⟩

end Substitution
end PromptBook

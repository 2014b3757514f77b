import PromptBook.Proofs.Substitution.Influence
import PromptBook.Proofs.Substitution.SinglePass
import PromptBook.Template.Basic

/-!
# The variables that a template refers to

A text mentions a variable if one of its tokens does.  A template refers to the variables that the
texts of its parts mention, be they sent or not.

**Results.**
* `Placeholder.mem_names_iff_mentions`: the names of a text, by the tokens that stand in it.
* `Template.mem_referenced_iff_refersTo`: the variables of a template, by the same.
-/

namespace PromptBook

variable {text x : String} {t : Template}

namespace Placeholder

/-- The name is an identifier and, white space at the ends apart, stands between the braces of some
token of the text. -/
def Mentions (text x : String) : Prop :=
  isIdentifierText x = true ∧ ∃ o : Occurrence text.toList, Text.trim o.inner = x.toList

theorem mem_names_iff_mentions : x ∈ names text ↔ Mentions text x := by
  rw [Substitution.mem_names_iff]
  constructor
  · rintro ⟨piece, hpiece, hreference⟩
    obtain ⟨inner, rfl, htrim, hid⟩ := reference?_eq_some_iff.mp hreference
    obtain ⟨o, rfl⟩ := token_mem_pieces_iff.mp hpiece
    exact ⟨hid, o, htrim⟩
  · rintro ⟨hid, o, htrim⟩
    exact ⟨.token o.inner, token_mem_pieces_iff.mpr ⟨o, rfl⟩,
      reference?_eq_some_iff.mpr ⟨o.inner, rfl, htrim, hid⟩⟩

end Placeholder

namespace Template

theorem mem_referenced_iff :
    x ∈ t.referenced ↔ ∃ p ∈ t.parts, ∃ source ∈ p.sources, x ∈ Placeholder.names source := by
  rw [referenced, (Placeholder.distinct_inFirstOrder _).mem_iff]
  simp only [List.mem_flatMap]
  constructor
  · rintro ⟨source, ⟨p, hp, hsource⟩, hx⟩
    exact ⟨p, hp, source, hsource, hx⟩
  · rintro ⟨p, hp, source, hsource, hx⟩
    exact ⟨source, ⟨p, hp, hsource⟩, hx⟩

/-- The content or the reference of some part mentions the variable. -/
def RefersTo (t : Template) (x : String) : Prop :=
  ∃ p ∈ t.parts, ∃ source, (source = p.content ∨ p.reference = some source) ∧
    Placeholder.Mentions source x

theorem mem_referenced_iff_refersTo : x ∈ t.referenced ↔ t.RefersTo x := by
  simp only [mem_referenced_iff, RefersTo, Placeholder.mem_names_iff_mentions, Part.sources,
    List.mem_cons, Option.mem_toList]

instance (t : Template) (x : String) : Decidable (t.RefersTo x) :=
  decidable_of_iff (x ∈ t.referenced) mem_referenced_iff_refersTo

end Template

end PromptBook

import PromptBook.Proofs.Legacy.Passages

/-!
# Keywords of blocks

What a block says is decided by the keyword at its beginning, white space at its ends apart.  A
placeholder says nothing, even if its variable is named like a keyword, for a keyword is followed by
white space or a quote and an identifier holds neither.

**Results.**
* `argument?_of_trim_eq`, `argument?_eq_none`: how a keyword and its argument stand in a block.
* `argument?_placeholder`: a placeholder is neither a role marker nor a media block.
-/

namespace PromptBook
namespace Legacy

open Placeholder (isIdentifier continuesIdentifier continuesIdentifier_of_mem)

variable {keyword : String} {inner name before after : List Char}

section Identifiers

/-- Nothing comes off a text that ends in an identifier and does not begin with white space. -/
theorem trim_append_identifier {start : List Char} (hstart : start.head?.any Text.isBlank = false)
    (h : isIdentifier name = true) :
    Text.trim (start ++ name) = start ++ name := by
  have hname : ∀ c ∈ name, Text.isBlank c = false := fun c hc =>
    Placeholder.isBlank_of_continuesIdentifier (continuesIdentifier_of_mem h hc)
  refine Text.trimOf_eq_self ?_ ?_
  · cases start with
    | nil =>
        exact (Option.any_eq_false _ _).mpr fun c hc => hname c (List.mem_of_mem_head? hc)
    | cons c start =>
        exact hstart
  · rw [List.getLast?_append_of_ne_nil start (Placeholder.ne_nil_of_isIdentifier h)]
    exact (Option.any_eq_false _ _).mpr fun c hc => hname c (List.mem_of_getLast? hc)

theorem trim_of_isIdentifier (h : isIdentifier name = true) : Text.trim name = name :=
  @trim_append_identifier _ [] rfl h

theorem unquote_of_isIdentifier (h : isIdentifier name = true) : Text.unquote name = name := by
  have hname : ∀ c ∈ name, (c == '"') = false := by
    intro c hc
    simpa using Placeholder.ne_quote_of_continuesIdentifier (continuesIdentifier_of_mem h hc)
  refine Text.trimOf_eq_self ?_ ?_
  · exact (Option.any_eq_false _ _).mpr fun c hc => hname c (List.mem_of_mem_head? hc)
  · exact (Option.any_eq_false _ _).mpr fun c hc => hname c (List.mem_of_getLast? hc)

/-- White space around an identifier comes off. -/
theorem trim_around_identifier (hbefore : ∀ c ∈ before, Text.isBlank c = true)
    (h : isIdentifier name = true) (hafter : ∀ c ∈ after, Text.isBlank c = true) :
    Text.trim (before ++ (name ++ after)) = name := by
  rw [Text.trim, Text.trimOf_append hbefore hafter]
  exact trim_of_isIdentifier h

end Identifiers

section Arguments

theorem argument?_of_trim_eq {c : Char} {rest : List Char}
    (htrim : Text.trim inner = keyword.toList ++ c :: rest)
    (hc : Text.isBlank c = true ∨ c = '"') :
    argument? keyword inner = some (Text.trim (c :: rest)) := by
  unfold argument?
  rw [htrim, Text.dropBeginning?_append]
  rcases hc with hc | rfl
  · simp [hc]
  · simp

theorem argument?_eq_none
    (h : ∀ c rest, Text.trim inner = keyword.toList ++ c :: rest →
      Text.isBlank c = false ∧ c ≠ '"') :
    argument? keyword inner = none := by
  unfold argument?
  split
  · rename_i c rest hdrop
    obtain ⟨hblank, hquote⟩ := h c rest (Text.dropBeginning?_eq_some_iff.mp hdrop)
    simp [hblank, hquote]
  · rfl

/-- A placeholder has no keyword, whatever its variable is called. -/
theorem argument?_placeholder (keyword : String)
    (hbefore : ∀ c ∈ before, Text.isBlank c = true)
    (h : isIdentifier name = true) (hafter : ∀ c ∈ after, Text.isBlank c = true) :
    argument? keyword (before ++ (name ++ after)) = none := by
  apply argument?_eq_none
  intro c rest htrim
  rw [trim_around_identifier hbefore h hafter] at htrim
  have hc : continuesIdentifier c = true :=
    continuesIdentifier_of_mem h (by simp [htrim])
  exact ⟨Placeholder.isBlank_of_continuesIdentifier hc,
    Placeholder.ne_quote_of_continuesIdentifier hc⟩

end Arguments

section Media

theorem trim_media (h : isIdentifier name = true) :
    Text.trim ("media url=".toList ++ name) = "media url=".toList ++ name :=
  trim_append_identifier (by decide) h

theorem argument?_media (h : isIdentifier name = true) :
    argument? "media" ("media url=".toList ++ name) = some ("url=".toList ++ name) := by
  have htrim : Text.trim ("media url=".toList ++ name) =
      "media".toList ++ ' ' :: ("url=".toList ++ name) := trim_media h
  have hspace : ∀ c ∈ [' '], Text.isBlank c = true := by simp [Text.isBlank]
  have hargument : Text.trim ([' '] ++ ("url=".toList ++ name)) = "url=".toList ++ name := by
    rw [Text.trim, Text.trimOf_append_left hspace]
    exact trim_append_identifier (by decide) h
  rw [argument?_of_trim_eq htrim (Or.inl (by decide))]
  exact congrArg some hargument

/-- A media block names no role. -/
theorem argument?_role_media (h : isIdentifier name = true) :
    argument? "role" ("media url=".toList ++ name) = none := by
  apply argument?_eq_none
  intro c rest htrim
  rw [trim_media h] at htrim
  have hhead := congrArg List.head? htrim
  simp at hhead

end Media

section Roles

/-- A role marker, with white space wherever there may be some. -/
theorem argument?_role (role : Role) (hbefore : ∀ c ∈ before, Text.isBlank c = true)
    {between : List Char} (hbetween : ∀ c ∈ between, Text.isBlank c = true)
    (hafter : ∀ c ∈ after, Text.isBlank c = true) :
    argument? "role" (before ++ ("role".toList ++ (between ++ role.quoted) ++ after)) =
      some role.quoted := by
  have hne : role.quoted ≠ [] := by
    cases role <;> decide
  have hlast : role.quoted.getLast?.any Text.isBlank = false := by
    cases role <;> decide
  have htrim : Text.trim (before ++ ("role".toList ++ (between ++ role.quoted) ++ after)) =
      "role".toList ++ (between ++ role.quoted) := by
    rw [Text.trim, Text.trimOf_append hbefore hafter]
    refine Text.trimOf_eq_self rfl ?_
    rw [← List.append_assoc, List.getLast?_append_of_ne_nil _ hne]
    exact hlast
  have hargument : Text.trim (between ++ role.quoted) = role.quoted := by
    rw [Text.trim, Text.trimOf_append_left hbetween]
    cases role <;> decide
  cases between with
  | nil =>
      obtain ⟨c, rest, hquoted, hc⟩ : ∃ c rest, role.quoted = c :: rest ∧ c = '"' := by
        cases role <;> exact ⟨_, _, rfl, rfl⟩
      rw [hquoted] at htrim hargument ⊢
      rw [argument?_of_trim_eq htrim (Or.inr hc)]
      exact congrArg some hargument
  | cons c rest =>
      rw [argument?_of_trim_eq htrim (Or.inl (hbetween c (by simp)))]
      exact congrArg some hargument

end Roles

end Legacy
end PromptBook

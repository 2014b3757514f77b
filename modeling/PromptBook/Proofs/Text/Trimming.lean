import PromptBook.Text.Blank
import Mathlib.Data.List.DropRight

/-!
# Trimming and taking apart

What a trim takes away stands at the ends and belongs to the class, and what stands at the ends and
belongs to the class does not show in what a trim leaves.  What else comes off a text, or is found
in it, was there.

**Results.**
* `exists_trimOf`: a text is its trimmed text between two texts of the class.
* `trimOf_append`: characters of the class around a text change nothing.
* `trimOf_eq_self`: a text with other characters at its ends stays.
* `dropBeginning?_eq_some_iff`, `dropEnding?_eq_some_iff`: what comes off a text was there.
* `splitOnce_eq_some_iff`, `occursIn_iff`: the first separator, and one text in another.
-/

namespace PromptBook
namespace Text

variable {p : Char → Bool} {cs lead trail : List Char}

section Trims

theorem trimEnd_eq_rdropWhile (p : Char → Bool) (cs : List Char) :
    trimEnd p cs = cs.rdropWhile p := rfl

/-- Characters of the class at the end of a text do not show. -/
theorem trimEnd_append (htrail : ∀ c ∈ trail, p c = true) (cs : List Char) :
    trimEnd p (cs ++ trail) = trimEnd p cs := by
  unfold trimEnd
  rw [List.reverse_append, List.dropWhile_append_of_pos]
  intro c hc
  exact htrail c (List.mem_reverse.mp hc)

/-- A text is what a trim of its end leaves and a text of the class. -/
theorem exists_trimEnd (p : Char → Bool) (cs : List Char) :
    ∃ trail, (∀ c ∈ trail, p c = true) ∧ cs = trimEnd p cs ++ trail := by
  refine ⟨(cs.reverse.takeWhile p).reverse, ?_, ?_⟩
  · intro c hc
    exact List.mem_takeWhile_imp (List.mem_reverse.mp hc)
  · have h := List.takeWhile_append_dropWhile (p := p) (l := cs.reverse)
    calc
      cs = cs.reverse.reverse := (List.reverse_reverse cs).symm
      _ = (cs.reverse.takeWhile p ++ cs.reverse.dropWhile p).reverse := by rw [h]
      _ = trimEnd p cs ++ (cs.reverse.takeWhile p).reverse := List.reverse_append

/-- After the characters of the class that it begins with, a text is its trimmed text and a text of
the class. -/
theorem exists_trail (p : Char → Bool) (cs : List Char) :
    ∃ trail, (∀ c ∈ trail, p c = true) ∧ cs = cs.takeWhile p ++ (trimOf p cs ++ trail) := by
  obtain ⟨trail, htrail, heq⟩ := exists_trimEnd p (cs.dropWhile p)
  refine ⟨trail, htrail, ?_⟩
  have hcs := List.takeWhile_append_dropWhile (p := p) (l := cs)
  rw [heq] at hcs
  exact hcs.symm

/-- A text is its trimmed text between two texts of the class. -/
theorem exists_trimOf (p : Char → Bool) (cs : List Char) :
    ∃ lead trail, (∀ c ∈ lead, p c = true) ∧ (∀ c ∈ trail, p c = true) ∧
      cs = lead ++ (trimOf p cs ++ trail) := by
  obtain ⟨trail, htrail, hcs⟩ := exists_trail p cs
  exact ⟨cs.takeWhile p, trail, fun c hc => List.mem_takeWhile_imp hc, htrail, hcs⟩

/-- Characters of the class around a text do not show. -/
theorem trimOf_append (hlead : ∀ c ∈ lead, p c = true) (htrail : ∀ c ∈ trail, p c = true)
    (cs : List Char) :
    trimOf p (lead ++ (cs ++ trail)) = trimOf p cs := by
  unfold trimOf
  rw [List.dropWhile_append_of_pos hlead, List.dropWhile_append]
  cases hdrop : cs.dropWhile p with
  | nil =>
      have hall : trail.dropWhile p = [] := List.dropWhile_eq_nil_iff.mpr htrail
      simp [hall]
  | cons c rest =>
      simpa using trimEnd_append htrail (c :: rest)

theorem trimOf_append_left (hlead : ∀ c ∈ lead, p c = true) (cs : List Char) :
    trimOf p (lead ++ cs) = trimOf p cs := by
  have hnone : ∀ c ∈ ([] : List Char), p c = true := by simp
  have h := trimOf_append hlead hnone cs
  rwa [List.append_nil] at h

/-- A text with other characters at its ends stays as it is. -/
theorem trimOf_eq_self (hfirst : cs.head?.any p = false) (hlast : cs.getLast?.any p = false) :
    trimOf p cs = cs := by
  have hdrop : cs.dropWhile p = cs := by
    cases cs with
    | nil =>
        rfl
    | cons c rest =>
        rw [List.dropWhile_cons_of_neg]
        simpa using hfirst
  unfold trimOf
  rw [hdrop, trimEnd_eq_rdropWhile, List.rdropWhile_eq_self_iff]
  intro hne
  rw [List.getLast?_eq_some_getLast hne] at hlast
  simpa using hlast

theorem trim_trim (cs : List Char) : trim (trim cs) = trim cs := by
  obtain ⟨lead, trail, hlead, htrail, hcs⟩ := exists_trimOf isBlank cs
  exact ((congrArg trim hcs).trans (trimOf_append hlead htrail _)).symm

theorem length_trim_le (cs : List Char) : (trim cs).length ≤ cs.length := by
  obtain ⟨lead, trail, _, _, hcs⟩ := exists_trimOf isBlank cs
  have hlength := congrArg List.length hcs
  simp only [List.length_append] at hlength
  unfold trim
  omega

end Trims

section Ends

theorem dropBeginning?_append (start rest : List Char) :
    dropBeginning? start (start ++ rest) = some rest := by
  induction start with
  | nil =>
      rfl
  | cons c start ih =>
      simpa [dropBeginning?] using ih

theorem dropBeginning?_eq_some_iff {start rest : List Char} :
    dropBeginning? start cs = some rest ↔ cs = start ++ rest := by
  constructor
  · intro h
    induction start generalizing cs with
    | nil =>
        simpa [dropBeginning?] using h
    | cons c start ih =>
        cases cs with
        | nil =>
            simp [dropBeginning?] at h
        | cons d cs =>
            by_cases hcd : c = d
            · simp only [dropBeginning?, hcd, if_true] at h
              rw [ih h, hcd]
              rfl
            · simp [dropBeginning?, hcd] at h
  · rintro rfl
    exact dropBeginning?_append start rest

theorem dropEnding?_eq_some_iff {c : Char} {rest : List Char} :
    dropEnding? c cs = some rest ↔ cs = rest ++ [c] := by
  unfold dropEnding?
  constructor
  · intro h
    split at h
    · rename_i hlast
      cases h
      exact (List.dropLast_append_getLast? c hlast).symm
    · cases h
  · rintro rfl
    simp

end Ends

section Places

variable {sep : Char} {before after needle : List Char}

theorem splitOnce_eq_some_iff :
    splitOnce sep cs = some (before, after) ↔ cs = before ++ sep :: after ∧ sep ∉ before := by
  constructor
  · intro h
    induction cs generalizing before with
    | nil =>
        cases h
    | cons c cs ih =>
        by_cases hc : c = sep
        · simp only [splitOnce, hc, if_true, Option.some.injEq, Prod.mk.injEq] at h
          obtain ⟨rfl, rfl⟩ := h
          exact ⟨by rw [hc]; rfl, by simp⟩
        · simp only [splitOnce, hc, if_false, Option.map_eq_some_iff] at h
          obtain ⟨⟨front, back⟩, hsplit, heq⟩ := h
          obtain ⟨rfl, rfl⟩ := Prod.mk.inj heq
          obtain ⟨rfl, hfront⟩ := ih hsplit
          exact ⟨rfl, by simp [Ne.symm hc, hfront]⟩
  · rintro ⟨rfl, hbefore⟩
    induction before with
    | nil =>
        simp [splitOnce]
    | cons c before ih =>
        obtain ⟨hc, hbefore⟩ := not_or.mp (List.mem_cons.not.mp hbefore)
        simp [splitOnce, Ne.symm hc, ih hbefore]

theorem occursIn_iff : occursIn needle cs = true ↔ needle <:+: cs := by
  induction cs with
  | nil =>
      simp [occursIn]
  | cons c cs ih =>
      rw [occursIn, Bool.or_eq_true, List.isPrefixOf_iff_prefix, ih, List.infix_cons_iff]

end Places

end Text
end PromptBook

import PromptBook.Text.Blank
import Mathlib.Data.List.Basic

/-!
# Runs of characters of a class

A text is gaps without characters of a class and runs of such characters by turns.  A run is not
empty and goes on as far as it can, so there is one way to take a text apart into gaps and runs.

**Results.**
* `splitWhere_append_cons`: the pieces between the characters of a class.
* `runsOutside_append`: the first run of a text, and the runs after it.
* `runsOf_iff`: the runs of a text, and nothing else.
* `runsOf_nil_iff`: which texts have no runs.
-/

namespace PromptBook
namespace Text

variable {p : Char → Bool} {c : Char} {cs gap run rest : List Char} {runs : List (List Char)}

/-- The text is a gap, then a run and more such text, or nothing. -/
inductive RunsOf (p : Char → Bool) : List Char → List (List Char) → Prop
  | gap {gap : List Char} (hgap : ∀ c ∈ gap, p c = false) : RunsOf p gap []
  | run {gap run rest : List Char} {runs : List (List Char)} (hgap : ∀ c ∈ gap, p c = false)
      (hne : run ≠ []) (hrun : ∀ c ∈ run, p c = true) (hends : ∀ c ∈ rest.head?, p c = false)
      (hrest : RunsOf p rest runs) : RunsOf p (gap ++ (run ++ rest)) (run :: runs)

section Pieces

theorem splitWhere_ne_nil (p : Char → Bool) (cs : List Char) : splitWhere p cs ≠ [] := by
  cases cs with
  | nil => simp [splitWhere]
  | cons c cs =>
      unfold splitWhere
      split
      · simp
      · split <;> simp

/-- Characters outside the class go to the first piece. -/
theorem splitWhere_append (hrun : ∀ c ∈ run, p c = false) {piece : List Char}
    {pieces : List (List Char)} (hrest : splitWhere p rest = piece :: pieces) :
    splitWhere p (run ++ rest) = (run ++ piece) :: pieces := by
  induction run with
  | nil =>
      exact hrest
  | cons c run ih =>
      obtain ⟨hc, hrun⟩ := List.forall_mem_cons.mp hrun
      simp [splitWhere, hc, ih hrun]

theorem splitWhere_of_none (h : ∀ c ∈ cs, p c = false) : splitWhere p cs = [cs] := by
  have hnil : splitWhere p [] = [[]] := rfl
  simpa using splitWhere_append h hnil

/-- A character of the class splits a text in two. -/
theorem splitWhere_append_cons {sep : Char} (hsep : p sep = true) (before after : List Char) :
    splitWhere p (before ++ sep :: after) = splitWhere p before ++ splitWhere p after := by
  induction before with
  | nil =>
      simp [splitWhere, hsep]
  | cons c before ih =>
      rw [List.cons_append, splitWhere, splitWhere, ih]
      cases p c with
      | true => rfl
      | false =>
          cases hpieces : splitWhere p before with
          | nil => exact absurd hpieces (splitWhere_ne_nil p before)
          | cons piece pieces => rfl

end Pieces

section Reading

theorem runsOutside_cons (hc : p c = true) (cs : List Char) :
    runsOutside p (c :: cs) = runsOutside p cs := by
  simp [runsOutside, splitWhere, hc]

theorem runsOutside_append_gap (hgap : ∀ c ∈ gap, p c = true) (cs : List Char) :
    runsOutside p (gap ++ cs) = runsOutside p cs := by
  induction gap with
  | nil =>
      rfl
  | cons c gap ih =>
      obtain ⟨hc, hgap⟩ := List.forall_mem_cons.mp hgap
      rw [List.cons_append, runsOutside_cons hc, ih hgap]

/-- A run that goes on as far as it can is the first of a text. -/
theorem runsOutside_append (hne : run ≠ []) (hrun : ∀ c ∈ run, p c = false)
    (hends : ∀ c ∈ rest.head?, p c = true) :
    runsOutside p (run ++ rest) = run :: runsOutside p rest := by
  have hempty : splitWhere p rest = [] :: (splitWhere p rest).tail := by
    cases rest with
    | nil =>
        rfl
    | cons c rest =>
        simp [splitWhere, hends c rfl]
  have hsplit := splitWhere_append hrun hempty
  rw [List.append_nil] at hsplit
  rw [runsOutside, hsplit, runsOutside]
  conv_rhs => rw [hempty]
  simp [hne]

end Reading

section Splitting

theorem RunsOf.eq_runsOutside (h : RunsOf p cs runs) : runs = runsOutside (fun c => !p c) cs := by
  induction h with
  | @gap gap hgap =>
      have hnone := runsOutside_append_gap (p := fun c => !p c) (by simpa using hgap) []
      rw [List.append_nil] at hnone
      exact hnone.symm
  | run hgap hne hrun hends hrest ih =>
      rw [runsOutside_append_gap (by simpa using hgap),
        runsOutside_append hne (by simpa using hrun) (by simpa using hends), ← ih]

theorem RunsOf.forall_mem (h : RunsOf p cs runs) :
    ∀ run ∈ runs, run ≠ [] ∧ ∀ c ∈ run, p c = true := by
  induction h with
  | gap hgap =>
      simp
  | run hgap hne hrun hends hrest ih =>
      exact List.forall_mem_cons.mpr ⟨⟨hne, hrun⟩, ih⟩

theorem RunsOf.cons_of_gap (hc : p c = false) (h : RunsOf p cs runs) : RunsOf p (c :: cs) runs := by
  cases h with
  | gap hgap =>
      exact .gap (List.forall_mem_cons.mpr ⟨hc, hgap⟩)
  | run hgap hne hrun hends hrest =>
      exact .run (List.forall_mem_cons.mpr ⟨hc, hgap⟩) hne hrun hends hrest

/-- A character of the class begins a run, or goes to the one that the text after it begins with. -/
theorem RunsOf.cons_of_run (hc : p c = true) (h : RunsOf p cs runs) :
    ∃ runs', RunsOf p (c :: cs) runs' := by
  have hnone : ∀ d ∈ ([] : List Char), p d = false := by simp
  have hself : ∀ d ∈ [c], p d = true := by simp [hc]
  by_cases hends : ∀ d ∈ cs.head?, p d = false
  · exact ⟨_, .run hnone (List.cons_ne_nil c []) hself hends h⟩
  · cases h with
    | gap hgap =>
        exact absurd (fun d hd => hgap d (List.mem_of_mem_head? hd)) hends
    | @run gap run rest runs hgap hne hrun hends' hrest =>
        cases gap with
        | cons d gap =>
            refine absurd (fun e he => ?_) hends
            cases he
            exact hgap d List.mem_cons_self
        | nil =>
            exact ⟨_, .run hnone (List.cons_ne_nil c run)
              (List.forall_mem_cons.mpr ⟨hc, hrun⟩) hends' hrest⟩

theorem exists_runsOf (p : Char → Bool) (cs : List Char) : ∃ runs, RunsOf p cs runs := by
  induction cs with
  | nil =>
      exact ⟨[], .gap (by simp)⟩
  | cons c cs ih =>
      obtain ⟨runs, h⟩ := ih
      cases hc : p c with
      | true =>
          exact h.cons_of_run hc
      | false =>
          exact ⟨runs, h.cons_of_gap hc⟩

/-- A text has its runs, and nothing else. -/
theorem runsOf_iff : RunsOf p cs runs ↔ runs = runsOutside (fun c => !p c) cs := by
  constructor
  · exact RunsOf.eq_runsOutside
  · rintro rfl
    obtain ⟨runs, h⟩ := exists_runsOf p cs
    exact h.eq_runsOutside ▸ h

theorem runsOf_nil_iff : RunsOf p cs [] ↔ ∀ c ∈ cs, p c = false := by
  constructor
  · intro h
    cases h with
    | gap hgap => exact hgap
  · exact RunsOf.gap

end Splitting

end Text
end PromptBook

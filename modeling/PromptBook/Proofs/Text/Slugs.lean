import PromptBook.Proofs.Text.Runs
import PromptBook.Proofs.Text.Trimming
import PromptBook.Text.Slug
import Mathlib.Data.List.Chain

/-!
# Slugs are runs joined by underscores

A slug is made character by character, with a look at what it ends in so far.  What comes of that is
simple: the runs of letters and digits of the text, each in lower case, with one underscore between
two of them.  An underscore is no letter or digit, nor the lower case of one, so the underscores of
a slug are those that were put between its runs.

**Results.**
* `underscore_not_mem_lower`: no letter or digit becomes an underscore.
* `slug_of_runsOf`: the slug of a text is its runs with underscores between them.
* `parted_slug`: a slug neither begins nor ends with an underscore, nor has two side by side.
* `slug_eq_nil_iff`: which texts have an empty slug.
-/

namespace PromptBook
namespace Text

variable {c d : Char} {cs gap run slugged : List Char} {runs pieces : List (List Char)}

section Letters

/-- The lower-case map leads to code points above that of the underscore. -/
theorem lowerRuns_above : ∀ r ∈ lowerRuns, '_'.toNat < r.1 + r.2.2.2 := by
  decide +kernel

theorem ofNat_ne_underscore {n : Nat} (hn : '_'.toNat < n) : Char.ofNat n ≠ '_' := by
  intro h
  by_cases hvalid : n.isValidChar
  · have hcode : (Char.ofNat n).toNat = n := by
      rw [Char.ofNat, dif_pos hvalid]
      rfl
    rw [h] at hcode
    omega
  · rw [Char.ofNat, dif_neg hvalid] at h
    exact absurd h (by decide)

theorem ne_underscore_of_isAlphanumeric (hc : isAlphanumeric c = true) : c ≠ '_' := by
  rintro rfl
  have hno : isAlphanumeric '_' = false := by
    decide +kernel
  rw [hc] at hno
  cases hno

/-- No letter or digit becomes an underscore. -/
theorem underscore_not_mem_lower (hc : isAlphanumeric c = true) : '_' ∉ lower c := by
  have hself := ne_underscore_of_isAlphanumeric hc
  unfold lower
  simp only
  split
  · decide
  · split
    · rename_i first last stride offset hfind
      have habove := lowerRuns_above _ (List.mem_of_find?_eq_some hfind)
      have hfirst := List.find?_some hfind
      simp only [Bool.and_eq_true, decide_eq_true_eq] at hfirst
      have hn : '_'.toNat < ((c.toNat : Int) + offset).toNat := by
        simp only at habove
        omega
      simpa using (ofNat_ne_underscore hn).symm
    · simpa using hself.symm

theorem lower_ne_nil (c : Char) : lower c ≠ [] := by
  unfold lower
  simp only
  split
  · simp
  · split <;> simp

theorem underscore_not_mem_lowered (hrun : ∀ c ∈ run, isAlphanumeric c = true) :
    '_' ∉ run.flatMap lower := by
  intro h
  obtain ⟨c, hc, hmem⟩ := List.mem_flatMap.mp h
  exact underscore_not_mem_lower (hrun c hc) hmem

theorem lowered_ne_nil (hne : run ≠ []) : run.flatMap lower ≠ [] := by
  obtain ⟨c, rest, rfl⟩ := List.exists_cons_of_ne_nil hne
  simp [lower_ne_nil]

end Letters

section Steps

theorem slugStep_of_isAlphanumeric (hc : isAlphanumeric c = true) (slugged : List Char) :
    slugStep slugged c = (lower c).reverse ++ slugged :=
  if_pos hc

theorem slugStep_nil (hc : isAlphanumeric c = false) : slugStep [] c = [] := by
  simp [slugStep, hc]

theorem slugStep_underscore (hc : isAlphanumeric c = false) :
    slugStep ('_' :: slugged) c = '_' :: slugged := by
  simp [slugStep, hc]

theorem slugStep_cons (hd : d ≠ '_') (hc : isAlphanumeric c = false) :
    slugStep (d :: slugged) c = '_' :: d :: slugged := by
  unfold slugStep
  rw [if_neg (by simp [hc])]
  split
  · contradiction
  · rename_i heq
    exact absurd (List.cons.inj heq).1 hd
  · rfl

/-- A run goes to the slug in lower case. -/
theorem foldl_slugStep_run (hrun : ∀ c ∈ run, isAlphanumeric c = true) (slugged : List Char) :
    run.foldl slugStep slugged = (run.flatMap lower).reverse ++ slugged := by
  induction run generalizing slugged with
  | nil =>
      rfl
  | cons c run ih =>
      obtain ⟨hc, hrun⟩ := List.forall_mem_cons.mp hrun
      rw [List.foldl_cons, slugStep_of_isAlphanumeric hc, ih hrun, List.flatMap_cons,
        List.reverse_append, List.append_assoc]

/-- Before the first run nothing goes to the slug. -/
theorem foldl_slugStep_nil (hgap : ∀ c ∈ gap, isAlphanumeric c = false) :
    gap.foldl slugStep [] = [] := by
  induction gap with
  | nil =>
      rfl
  | cons c gap ih =>
      obtain ⟨hc, hgap⟩ := List.forall_mem_cons.mp hgap
      rw [List.foldl_cons, slugStep_nil hc, ih hgap]

theorem foldl_slugStep_underscore (hgap : ∀ c ∈ gap, isAlphanumeric c = false) :
    gap.foldl slugStep ('_' :: slugged) = '_' :: slugged := by
  induction gap with
  | nil =>
      rfl
  | cons c gap ih =>
      obtain ⟨hc, hgap⟩ := List.forall_mem_cons.mp hgap
      rw [List.foldl_cons, slugStep_underscore hc, ih hgap]

/-- A gap after a run becomes one underscore. -/
theorem foldl_slugStep_gap (hd : d ≠ '_') (hne : gap ≠ [])
    (hgap : ∀ c ∈ gap, isAlphanumeric c = false) :
    gap.foldl slugStep (d :: slugged) = '_' :: d :: slugged := by
  obtain ⟨c, rest, rfl⟩ := List.exists_cons_of_ne_nil hne
  obtain ⟨hc, hrest⟩ := List.forall_mem_cons.mp hgap
  rw [List.foldl_cons, slugStep_cons hd hc, foldl_slugStep_underscore hrest]

/-- What a slug ends in, if it is not an underscore, stays. -/
theorem trimEnd_reverse_cons (hd : d ≠ '_') :
    trimEnd (· == '_') (d :: slugged).reverse = (d :: slugged).reverse := by
  rw [trimEnd, List.reverse_reverse, List.dropWhile_cons_of_neg (by simpa using hd)]

theorem trimEnd_reverse_underscore (hd : d ≠ '_') :
    trimEnd (· == '_') ('_' :: d :: slugged).reverse = (d :: slugged).reverse := by
  rw [List.reverse_cons, trimEnd_append (by simp), trimEnd_reverse_cons hd]

/-- The last character of a run in lower case. -/
theorem exists_lowered_reverse (hne : run ≠ []) (hrun : ∀ c ∈ run, isAlphanumeric c = true) :
    ∃ d rest, (run.flatMap lower).reverse = d :: rest ∧ d ≠ '_' := by
  have hlowered : (run.flatMap lower).reverse ≠ [] := by
    simpa using lowered_ne_nil hne
  obtain ⟨d, rest, heq⟩ := List.exists_cons_of_ne_nil hlowered
  refine ⟨d, rest, heq, ?_⟩
  rintro rfl
  have hmem : '_' ∈ (run.flatMap lower).reverse := heq ▸ List.mem_cons_self
  exact underscore_not_mem_lowered hrun (List.mem_reverse.mp hmem)

end Steps

section Runs

/-- After a run the slug goes on with an underscore before each run that follows. -/
theorem slug_after_run (h : RunsOf isAlphanumeric cs runs)
    (hends : ∀ c ∈ cs.head?, isAlphanumeric c = false) (hd : d ≠ '_') (slugged : List Char) :
    trimEnd (· == '_') (cs.foldl slugStep (d :: slugged)).reverse =
      (d :: slugged).reverse ++ runs.flatMap fun run => '_' :: run.flatMap lower := by
  induction h generalizing d slugged with
  | @gap gap hgap =>
      rw [List.flatMap_nil, List.append_nil]
      by_cases hne : gap = []
      · subst hne
        exact trimEnd_reverse_cons hd
      · rw [foldl_slugStep_gap hd hne hgap, trimEnd_reverse_underscore hd]
  | @run gap run rest runs hgap hne hrun hends' hrest ih =>
      have hgapne : gap ≠ [] := by
        rintro rfl
        obtain ⟨c, tail, rfl⟩ := List.exists_cons_of_ne_nil hne
        have hno := hends c rfl
        rw [hrun c List.mem_cons_self] at hno
        cases hno
      obtain ⟨e, front, hlowered, he⟩ := exists_lowered_reverse hne hrun
      rw [List.foldl_append, List.foldl_append, foldl_slugStep_gap hd hgapne hgap,
        foldl_slugStep_run hrun, hlowered, List.cons_append, ih hends' he, ← List.cons_append,
        ← hlowered]
      simp

theorem intercalate_cons (sep : Char) (piece : List Char) (pieces : List (List Char)) :
    [sep].intercalate (piece :: pieces) = piece ++ pieces.flatMap (sep :: ·) := by
  induction pieces generalizing piece with
  | nil =>
      simp
  | cons next pieces ih =>
      rw [List.intercalate_cons_cons, ih]
      simp

/-- The slug of a text is its runs in lower case, with underscores between them. -/
theorem slug_of_runsOf (h : RunsOf isAlphanumeric cs runs) :
    slug cs = ['_'].intercalate (runs.map (·.flatMap lower)) := by
  cases h with
  | gap hgap =>
      rw [slug, foldl_slugStep_nil hgap]
      rfl
  | run hgap hne hrun hends hrest =>
      obtain ⟨d, front, hlowered, hd⟩ := exists_lowered_reverse hne hrun
      rw [slug, List.foldl_append, List.foldl_append, foldl_slugStep_nil hgap,
        foldl_slugStep_run hrun, List.append_nil, hlowered, slug_after_run hrest hends hd,
        ← hlowered, List.reverse_reverse, List.map_cons, intercalate_cons, List.flatMap_map]

example : slug "-- Product Describer (v2)".toList = "product_describer_v2".toList := by
  decide +kernel

end Runs

section Shape

/-- A separator neither begins nor ends the text, and no two of them stand side by side. -/
structure Parted (sep : Char) (cs : List Char) : Prop where
  first : cs.head? ≠ some sep
  last : cs.getLast? ≠ some sep
  apart : cs.IsChain fun a b => a = sep → b ≠ sep

variable {sep : Char} {before after : List Char}

theorem parted_of_not_mem (h : sep ∉ cs) : Parted sep cs where
  first hfirst := h (List.mem_of_head? hfirst)
  last hlast := h (List.mem_of_getLast? hlast)
  apart := by
    have hpairs : cs.Pairwise fun a b => a = sep → b ≠ sep := by
      refine List.pairwise_of_forall_mem_list fun a ha b _ => ?_
      rintro rfl
      exact absurd ha h
    exact hpairs.isChain

theorem Parted.join (h : Parted sep before) (h' : Parted sep after) (hbefore : before ≠ [])
    (hafter : after ≠ []) : Parted sep (before ++ sep :: after) where
  first := by
    rw [List.head?_append_of_ne_nil _ hbefore]
    exact h.first
  last := by
    rw [List.getLast?_append_cons, List.getLast?_cons_of_ne_nil hafter]
    exact h'.last
  apart := by
    have hsecond : (sep :: after).IsChain fun a b => a = sep → b ≠ sep := by
      refine List.isChain_cons.mpr ⟨?_, h'.apart⟩
      rintro b hb - rfl
      exact h'.first hb
    refine h.apart.append hsecond ?_
    rintro a ha b - rfl
    exact absurd ha h.last

/-- No two separators stand side by side. -/
theorem Parted.not_adjacent (h : Parted sep cs) : ¬[sep, sep] <:+: cs := by
  intro hpair
  have hchain : List.IsChain (fun a b => a = sep → b ≠ sep) [sep, sep] := h.apart.infix hpair
  exact (List.isChain_cons_cons.mp hchain).1 rfl rfl

theorem intercalate_ne_nil {piece : List Char} (hpiece : piece ≠ []) :
    [sep].intercalate (piece :: pieces) ≠ [] := by
  simp [intercalate_cons, hpiece]

/-- Pieces without separators, joined by one separator between two of them. -/
theorem parted_intercalate (h : ∀ piece ∈ pieces, piece ≠ [] ∧ sep ∉ piece) :
    Parted sep ([sep].intercalate pieces) := by
  induction pieces with
  | nil =>
      exact parted_of_not_mem (by simp)
  | cons piece rest ih =>
      obtain ⟨⟨hne, hnot⟩, hrest⟩ := List.forall_mem_cons.mp h
      cases rest with
      | nil =>
          rw [List.intercalate_singleton]
          exact parted_of_not_mem hnot
      | cons next rest =>
          have hnext := (hrest next List.mem_cons_self).1
          rw [List.intercalate_cons_cons, List.append_assoc]
          exact (parted_of_not_mem hnot).join (ih hrest) hne (intercalate_ne_nil hnext)

/-- A slug neither begins nor ends with an underscore, nor has two side by side. -/
theorem parted_slug (cs : List Char) : Parted '_' (slug cs) := by
  obtain ⟨runs, h⟩ := exists_runsOf isAlphanumeric cs
  rw [slug_of_runsOf h]
  refine parted_intercalate fun piece hpiece => ?_
  obtain ⟨run, hmem, rfl⟩ := List.mem_map.mp hpiece
  obtain ⟨hne, hrun⟩ := h.forall_mem run hmem
  exact ⟨lowered_ne_nil hne, underscore_not_mem_lowered hrun⟩

theorem slug_eq_nil_iff : slug cs = [] ↔ ∀ c ∈ cs, isAlphanumeric c = false := by
  obtain ⟨runs, h⟩ := exists_runsOf isAlphanumeric cs
  rw [slug_of_runsOf h]
  cases h with
  | gap hgap =>
      simpa using hgap
  | @run gap run rest runs hgap hne hrun hends hrest =>
      rw [List.map_cons, iff_false_left (intercalate_ne_nil (lowered_ne_nil hne))]
      intro hall
      obtain ⟨c, hmem⟩ := List.exists_mem_of_ne_nil run hne
      have hno := hall c (by simp [hmem])
      rw [hrun c hmem] at hno
      cases hno

end Shape

end Text
end PromptBook

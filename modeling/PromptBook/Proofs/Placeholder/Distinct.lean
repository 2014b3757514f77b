import PromptBook.Placeholder
import Mathlib.Data.List.Induction
import Mathlib.Data.List.Nodup

/-!
# Names in the order of their first occurrences

**Results.**  `distinct_inFirstOrder`: taking up each name once, when it first comes, gives the
names of a list without repetition in the order of their first occurrences.
-/

namespace PromptBook
namespace Placeholder

/-- The names of a list without repetition, in the order of their first occurrences. -/
structure InFirstOrder (names all : List String) : Prop where
  nodup : names.Nodup
  mem_iff : ∀ name, name ∈ names ↔ name ∈ all
  ordered : names.Pairwise fun a b => all.idxOf a < all.idxOf b

theorem distinct_append_singleton (all : List String) (name : String) :
    distinct (all ++ [name]) = addNew (distinct all) name := by
  simp [distinct]

theorem InFirstOrder.addNew {names all : List String} (h : InFirstOrder names all)
    (name : String) :
    InFirstOrder (Placeholder.addNew names name) (all ++ [name]) := by
  have hidx : ∀ a ∈ names, (all ++ [name]).idxOf a = all.idxOf a :=
    fun a ha => List.idxOf_append_of_mem ((h.mem_iff a).mp ha)
  have hold : names.Pairwise fun a b => (all ++ [name]).idxOf a < (all ++ [name]).idxOf b := by
    refine List.Pairwise.imp_of_mem ?_ h.ordered
    intro a b ha hb hab
    rw [hidx a ha, hidx b hb]
    exact hab
  by_cases hin : name ∈ names
  · have hadd : Placeholder.addNew names name = names := by
      simp [Placeholder.addNew, hin]
    rw [hadd]
    refine ⟨h.nodup, ?_, hold⟩
    intro other
    rw [h.mem_iff other, List.mem_append, List.mem_singleton]
    constructor
    · exact Or.inl
    · rintro (hother | rfl)
      · exact hother
      · exact (h.mem_iff other).mp hin
  · have hadd : Placeholder.addNew names name = names ++ [name] := by
      simp [Placeholder.addNew, hin]
    have hnew : name ∉ all := fun hall => hin ((h.mem_iff name).mpr hall)
    rw [hadd]
    refine ⟨?_, ?_, ?_⟩
    · exact List.nodup_append.mpr
        ⟨h.nodup, List.nodup_singleton name, by
          rintro a ha b hb rfl
          rw [List.mem_singleton.mp hb] at ha
          exact hin ha⟩
    · intro other
      rw [List.mem_append, List.mem_append, h.mem_iff other]
    · refine List.pairwise_append.mpr ⟨hold, List.pairwise_singleton _ _, ?_⟩
      intro a ha b hb
      rw [List.mem_singleton.mp hb, hidx a ha, List.idxOf_append_of_notMem hnew]
      have hlt := List.idxOf_lt_length_of_mem ((h.mem_iff a).mp ha)
      omega

/-- To take up each name when it first comes puts the names in the order of their first
occurrences. -/
theorem distinct_inFirstOrder (all : List String) : InFirstOrder (distinct all) all := by
  induction all using List.reverseRecOn with
  | nil =>
      exact ⟨List.nodup_nil, fun _ => Iff.rfl, List.Pairwise.nil⟩
  | append_singleton all name ih =>
      rw [distinct_append_singleton]
      exact ih.addNew name

end Placeholder
end PromptBook

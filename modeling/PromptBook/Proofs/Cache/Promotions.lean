import PromptBook.Proofs.Cache.Uses

/-!
# Names in the order of their promotions

**Results.**
* `Promoted.cons`, `Promoted.idle`: what one event does to names in this order.
* `Promoted.mem_take_iff`: which names stay when one has to make room.
-/

namespace PromptBook
namespace Cache

variable {α : Type} {past : Past α} {event : Event α} {name other : String}
variable {names kept : List String}

namespace Past

theorem promotedAt?_cons_self (h : event.promoted? = some name) :
    promotedAt? (event :: past) name = some past.length := by
  simp [promotedAt?, h]

theorem promotedAt?_cons_ne (h : event.promoted? ≠ some name) :
    promotedAt? (event :: past) name = past.promotedAt? name := by
  simp [promotedAt?, h]

/-- A promotion is no later than the past is long. -/
theorem lt_length_of_promotedAt? {time : Nat} (h : past.promotedAt? name = some time) :
    time < past.length := by
  induction past with
  | nil =>
      cases h
  | cons event earlier ih =>
      by_cases hname : event.promoted? = some name
      · rw [promotedAt?_cons_self hname] at h
        cases h
        simp
      · rw [promotedAt?_cons_ne hname] at h
        have hlt := ih h
        simp only [List.length_cons]
        omega

theorem Later.asymm (h : past.Later name other) : ¬past.Later other name := by
  rintro ⟨j', i', hj', hi', hlt'⟩
  obtain ⟨i, j, hi, hj, hlt⟩ := h
  rw [hi] at hi'
  rw [hj] at hj'
  cases hi'
  cases hj'
  omega

theorem Later.ne (h : past.Later name other) : name ≠ other := by
  rintro rfl
  exact h.asymm h

/-- An event that promotes neither of two names leaves them in their order. -/
theorem Later.cons (h : past.Later name other) (hname : event.promoted? ≠ some name)
    (hother : event.promoted? ≠ some other) : Later (event :: past) name other := by
  obtain ⟨i, j, hi, hj, hlt⟩ := h
  exact ⟨i, j, by rw [promotedAt?_cons_ne hname, hi], by rw [promotedAt?_cons_ne hother, hj], hlt⟩

end Past

/-- Names that were all promoted, in the order of their last promotions, the latest first. -/
structure Promoted (past : Past α) (names : List String) : Prop where
  promoted : ∀ name ∈ names, ∃ time, past.promotedAt? name = some time
  latestFirst : names.Pairwise past.Later

namespace Promoted

theorem nil (past : Past α) : Promoted past [] := by
  constructor <;> simp

theorem nodup (h : Promoted past names) : names.Nodup :=
  h.latestFirst.imp Past.Later.ne

theorem sublist (h : Promoted past names) (hsub : kept.Sublist names) : Promoted past kept where
  promoted name hname := h.promoted name (hsub.subset hname)
  latestFirst := h.latestFirst.sublist hsub

/-- An event that promotes none of the names leaves them in their order. -/
theorem idle (h : Promoted past names) (hevent : ∀ name ∈ names, event.promoted? ≠ some name) :
    Promoted (event :: past) names where
  promoted name hname := by
    rw [Past.promotedAt?_cons_ne (hevent name hname)]
    exact h.promoted name hname
  latestFirst :=
    h.latestFirst.imp_of_mem fun ha hb hab => hab.cons (hevent _ ha) (hevent _ hb)

/-- The name that an event promotes comes before all others. -/
theorem cons (h : Promoted past names) (hevent : event.promoted? = some name)
    (hne : name ∉ names) : Promoted (event :: past) (name :: names) := by
  have hothers : ∀ other ∈ names, event.promoted? ≠ some other := by
    intro other hother heq
    rw [hevent] at heq
    cases heq
    exact hne hother
  have hidle := h.idle hothers
  have hself : Past.promotedAt? (event :: past) name = some past.length :=
    Past.promotedAt?_cons_self hevent
  constructor
  · intro other hother
    rcases List.mem_cons.mp hother with rfl | hother
    · exact ⟨_, hself⟩
    · exact hidle.promoted other hother
  · refine List.pairwise_cons.mpr ⟨?_, hidle.latestFirst⟩
    intro other hother
    obtain ⟨time, htime⟩ := h.promoted other hother
    refine ⟨_, time, hself, ?_, Past.lt_length_of_promotedAt? htime⟩
    rw [Past.promotedAt?_cons_ne (hothers other hother), htime]

/-- Of names that fill their room, all but the one that was promoted first stay for a new one. -/
theorem mem_take_iff (h : Promoted past names) {room : Nat} (hroom : 0 < room)
    (hlength : names.length ≤ room) :
    name ∈ names.take (room - 1) ↔
      name ∈ names ∧
        ¬(names.length = room ∧ ∀ other ∈ names, other ≠ name → past.Later other name) := by
  by_cases hfull : names.length = room
  · rcases List.eq_nil_or_concat names with rfl | ⟨before, last, rfl⟩
    · simp
    · rw [List.concat_eq_append] at h hfull ⊢
      have htake : (before ++ [last]).take (room - 1) = before := by
        rw [← hfull]
        simp
      have hlast : ∀ other ∈ before, past.Later other last := by
        intro other hother
        exact (List.pairwise_append.mp h.latestFirst).2.2 other hother last (by simp)
      rw [htake]
      constructor
      · intro hname
        refine ⟨List.mem_append_left _ hname, ?_⟩
        rintro ⟨-, holdest⟩
        have hlater := hlast name hname
        exact hlater.asymm (holdest last (by simp) hlater.ne.symm)
      · rintro ⟨hname, hnot⟩
        rcases List.mem_append.mp hname with hname | hname
        · exact hname
        · obtain rfl := List.mem_singleton.mp hname
          refine absurd ⟨hfull, ?_⟩ hnot
          intro other hother hne
          rcases List.mem_append.mp hother with hother | hother
          · exact hlast other hother
          · exact absurd (List.mem_singleton.mp hother) hne
  · have htake : names.take (room - 1) = names := List.take_of_length_le (by omega)
    simp [htake, hfull]

end Promoted

end Cache
end PromptBook

import Mathlib.Data.List.Forall2

/-!
# Lists related item by item

Two lists are related if they are as long as each other and the items at each place are.

**Results.**
* `exists_left`, `exists_right`: each item of one list has one of the other.
* `map_eq_map`: what is the same for related items is the same for the lists.
* `forall₂_trans`: related by way of a third list.
-/

namespace PromptBook
namespace Itemwise

section Between

variable {α β γ : Type} {r : α → β → Prop} {as : List α} {bs : List β}

theorem exists_left {b : β} (h : List.Forall₂ r as bs) (hb : b ∈ bs) : ∃ a ∈ as, r a b := by
  induction h with
  | nil => cases hb
  | cons hab _ ih =>
      rcases List.mem_cons.mp hb with rfl | hrest
      · exact ⟨_, List.mem_cons_self, hab⟩
      · obtain ⟨a, ha, hr⟩ := ih hrest
        exact ⟨a, List.mem_cons_of_mem _ ha, hr⟩

theorem exists_right {a : α} (h : List.Forall₂ r as bs) (ha : a ∈ as) : ∃ b ∈ bs, r a b :=
  exists_left h.flip ha

theorem map_eq_map {f : α → γ} {g : β → γ} (hfg : ∀ {a b}, r a b → f a = g b)
    (h : List.Forall₂ r as bs) : as.map f = bs.map g := by
  rw [← List.forall₂_eq_eq_eq, List.forall₂_map_left_iff, List.forall₂_map_right_iff]
  exact h.imp fun _ _ => hfg

end Between

section Within

variable {α : Type} {r : α → α → Prop}

theorem forall₂_trans (htrans : ∀ {a b c}, r a b → r b c → r a c) {as bs cs : List α}
    (h : List.Forall₂ r as bs) (h' : List.Forall₂ r bs cs) : List.Forall₂ r as cs := by
  induction h generalizing cs with
  | nil =>
      cases h'
      exact .nil
  | cons hab _ ih =>
      cases h' with
      | cons hbc hrest => exact .cons (htrans hab hbc) (ih hrest)

/-- Lists that differ in one place. -/
theorem forall₂_of_place (hrefl : ∀ a, r a a) (before after : List α) {a b : α} (h : r a b) :
    List.Forall₂ r (before ++ a :: after) (before ++ b :: after) :=
  List.rel_append (List.forall₂_same.mpr fun a _ => hrefl a)
    (.cons h (List.forall₂_same.mpr fun a _ => hrefl a))

end Within

end Itemwise
end PromptBook

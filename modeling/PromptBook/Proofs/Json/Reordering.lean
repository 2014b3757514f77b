import PromptBook.Json.Basic
import PromptBook.Proofs.Dictionary.Entries
import PromptBook.Proofs.Itemwise
import Mathlib.Data.List.Perm.Basic

/-!
# JSON values in another order

The members of an object may stand in any order.  A value is put in order by building every object
in it anew, as reading does; values that differ in the order of their members only come to the same
then.

**Results.**
* `Rearrangement.eq`, `Rearrangement.reordered`: two relations that keep everything but the order.
* `Reordered.sorted_eq`: what is the same in another order is the same in order.
-/

namespace PromptBook
namespace Json

open Itemwise (forall₂_of_place forall₂_trans)

section Sorting

mutual

/-- The value with the members of all its objects in order. -/
def sorted : Json → Json
  | null => null
  | bool b => bool b
  | number n => number n
  | string s => string s
  | array items => array (sortedItems items)
  | object members => ofMembers (sortedMembers members)

/-- The items of an array, each in order. -/
def sortedItems : List Json → List Json
  | [] => []
  | x :: rest => sorted x :: sortedItems rest

/-- The members of an object, each in order. -/
def sortedMembers : List (String × Json) → List (String × Json)
  | [] => []
  | (name, x) :: rest => (name, sorted x) :: sortedMembers rest

end

theorem sortedItems_eq (items : List Json) : sortedItems items = items.map sorted := by
  induction items with
  | nil => rfl
  | cons x rest ih => rw [sortedItems, ih, List.map_cons]

theorem sortedMembers_eq (members : List (String × Json)) :
    sortedMembers members = members.map fun m => (m.1, m.2.sorted) := by
  induction members with
  | nil => rfl
  | cons m rest ih => rw [sortedMembers, ih, List.map_cons]

theorem names_sortedMembers (members : List (String × Json)) :
    (sortedMembers members).map Prod.fst = members.map Prod.fst := by
  rw [sortedMembers_eq, List.map_map]
  rfl

end Sorting

/-- The same value, but for the order in which its objects have their members. -/
inductive Reordered : Json → Json → Prop
  | refl (x : Json) : Reordered x x
  | trans {x y z : Json} (h : Reordered x y) (h' : Reordered y z) : Reordered x z
  /-- The members of an object are put in another order. -/
  | members {members members' : List (String × Json)} (hnames : (members.map Prod.fst).Nodup)
      (h : members.Perm members') : Reordered (object members) (object members')
  /-- Something is put in another order inside an array. -/
  | item (before after : List Json) {x y : Json} (h : Reordered x y) :
      Reordered (array (before ++ x :: after)) (array (before ++ y :: after))
  /-- Something is put in another order inside an object. -/
  | member (before after : List (String × Json)) (name : String) {x y : Json}
      (h : Reordered x y) :
      Reordered (object (before ++ (name, x) :: after)) (object (before ++ (name, y) :: after))

/-- Values that differ in the order of their members only are the same when they are in order. -/
theorem Reordered.sorted_eq {x y : Json} (h : Reordered x y) : x.sorted = y.sorted := by
  induction h with
  | refl x => rfl
  | trans _ _ ih ih' => exact ih.trans ih'
  | @members members members' hnames h =>
      rw [sorted, sorted, ofMembers, ofMembers]
      congr 1
      apply Dictionary.ofEntries_perm
      · rwa [names_sortedMembers]
      · rw [sortedMembers_eq, sortedMembers_eq]
        exact h.map _
  | item before after _ ih =>
      rw [sorted, sorted, sortedItems_eq, sortedItems_eq]
      simp [ih]
  | member before after name _ ih =>
      rw [sorted, sorted, sortedMembers_eq, sortedMembers_eq]
      simp [ih]

/-- Whether a value has no parts. -/
def isPlain : Json → Bool
  | array _ | object _ => false
  | null | bool _ | number _ | string _ => true

/-- Members of one name with values that are related. -/
def SameName (S : Json → Json → Prop) (m m' : String × Json) : Prop :=
  m.1 = m'.1 ∧ S m.2 m'.2

/-- A relation of values that differ, if they do, in the order of members only. -/
structure Rearrangement (S : Json → Json → Prop) : Prop where
  plain : ∀ {x y : Json}, x.isPlain = true → S x y → y = x
  array : ∀ {items : List Json} {y : Json}, S (array items) y →
    ∃ items', y = .array items' ∧ List.Forall₂ S items items'
  object : ∀ {members : List (String × Json)} {y : Json}, S (object members) y →
    ∃ between members', y = .object members' ∧
      List.Forall₂ (SameName S) members between ∧ between.Perm members'

namespace Rearrangement

theorem eq : Rearrangement Eq where
  plain _ h := h.symm
  array h := ⟨_, h.symm, List.forall₂_refl _⟩
  object {members} _ h :=
    ⟨members, members, h.symm, List.forall₂_same.mpr fun _ _ => ⟨rfl, rfl⟩, .refl _⟩

theorem reordered : Rearrangement Reordered where
  plain := by
    intro x y hx h
    induction h with
    | refl x => rfl
    | trans _ _ ih ih' =>
        obtain rfl := ih hx
        exact ih' hx
    | members _ _ => cases hx
    | item _ _ _ _ => cases hx
    | member _ _ _ _ _ => cases hx
  array := by
    intro items y h
    generalize hx : Json.array items = x at h
    induction h generalizing items with
    | refl x => exact ⟨items, hx.symm, List.forall₂_same.mpr fun x _ => .refl x⟩
    | trans _ _ ih ih' =>
        obtain ⟨items₁, rfl, h₁⟩ := ih hx
        obtain ⟨items₂, rfl, h₂⟩ := ih' rfl
        exact ⟨items₂, rfl, forall₂_trans .trans h₁ h₂⟩
    | members _ _ => cases hx
    | @item before after x y h _ =>
        cases hx
        exact ⟨before ++ y :: after, rfl, forall₂_of_place .refl before after h⟩
    | member _ _ _ _ _ => cases hx
  object := by
    intro members y h
    generalize hx : Json.object members = x at h
    induction h generalizing members with
    | refl x =>
        exact ⟨members, members, hx.symm, List.forall₂_same.mpr fun m _ => ⟨rfl, .refl m.2⟩, .refl _⟩
    | trans _ _ ih ih' =>
        -- The second change of places is brought before the values that the first order has.
        obtain ⟨between₁, members₁, rfl, h₁, hperm₁⟩ := ih hx
        obtain ⟨between₂, members₂, rfl, h₂, hperm₂⟩ := ih' rfl
        obtain ⟨between, hbetween, hperm⟩ := List.perm_comp_forall₂ hperm₁ h₂
        refine ⟨between, members₂, rfl, forall₂_trans ?_ h₁ hbetween, hperm.trans hperm₂⟩
        intro m m' m'' hm hm'
        exact ⟨hm.1.trans hm'.1, hm.2.trans hm'.2⟩
    | @members members₁ members₂ _ h =>
        cases hx
        exact ⟨members₁, members₂, rfl, List.forall₂_same.mpr fun m _ => ⟨rfl, .refl m.2⟩, h⟩
    | item _ _ _ _ => cases hx
    | @member before after name x y h _ =>
        cases hx
        have hplace : SameName Reordered (name, x) (name, y) := ⟨rfl, h⟩
        exact ⟨before ++ (name, y) :: after, _, rfl,
          forall₂_of_place (fun m => ⟨rfl, .refl m.2⟩) before after hplace, .refl _⟩

end Rearrangement

end Json
end PromptBook

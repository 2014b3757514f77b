import PromptBook.Proofs.Cache.Recency
import PromptBook.Proofs.Dictionary.Entries
import Mathlib.Data.List.Forall2

/-!
# Caches of different capacities

Of two caches that are used alike, the one with more room holds all that the other holds, and in the
same order.  The orders may drift apart, as a name that only the large cache holds may be used
there, but an entry that makes room in the large cache is none that the small one keeps: the small
cache never has more room left, so it is full, too, and gives up its own last entry.

To store a value only if there is none is left out here.  The small cache may take the value where
the large one still holds another.

**Results.**
* `take_sublist_take`: what is left of two lists of which the shorter one loses more at its end.
* `Covers.step`, `Covers.run`: one use of both caches, and a whole run.
* `larger_finds_more`: runs of two new caches.
-/

namespace PromptBook
namespace Cache

variable {α : Type} {large small : Cache α} {name : String} {value : α}

section Lists

/-- A list within another stays within it if it loses at least as much at its end. -/
theorem take_sublist_take {β : Type} {xs ys : List β} {m n : Nat} (h : xs.Sublist ys)
    (hloss : ys.length - n ≤ xs.length - m) : (xs.take m).Sublist (ys.take n) := by
  rw [← List.reverse_sublist, List.reverse_take, List.reverse_take]
  have hmore : (xs.reverse.drop (xs.length - m)).Sublist (xs.reverse.drop (ys.length - n)) :=
    List.drop_sublist_drop_left _ hloss
  exact hmore.trans ((List.reverse_sublist.mpr h).drop _)

end Lists

section Getting

variable {c : Cache α}

theorem others_eq_self (h : c.held? name = none) : others name c.entries = c.entries := by
  have hname : name ∉ c.keys := by
    rw [← held?_isSome_iff, h]
    exact Bool.false_ne_true
  refine List.filter_eq_self.mpr fun entry hentry => ?_
  rw [bne_iff_ne]
  rintro rfl
  exact hname (List.mem_map_of_mem hentry)

theorem keys_get_of_held? (h : c.held? name = some value) :
    (c.get name).2.keys = name :: c.keys.filter (· != name) := by
  rw [get_of_held? h, keys, List.map_cons, map_others]
  rfl

theorem keys_get_of_not_held? (h : c.held? name = none) : (c.get name).2.keys = c.keys := by
  rw [get_of_not_held? h]
  rfl

theorem nodup_get (hnodup : c.keys.Nodup) (name : String) : (c.get name).2.keys.Nodup := by
  cases h : c.held? name with
  | some value =>
      rw [keys_get_of_held? h, List.nodup_cons]
      exact ⟨by simp, hnodup.filter _⟩
  | none =>
      rw [keys_get_of_not_held? h]
      exact hnodup

/-- To ask for a value moves a name and adds none. -/
theorem size_get (hnodup : c.keys.Nodup) (name : String) : (c.get name).2.size = c.size := by
  rw [← length_keys, ← length_keys]
  cases h : c.held? name with
  | some value =>
      have hmem : name ∈ c.keys := held?_isSome_iff.mp (Option.isSome_of_mem h)
      rw [keys_get_of_held? h, List.length_cons, length_filter_ne_add_one hnodup hmem]
  | none =>
      rw [keys_get_of_not_held? h]

theorem nodup_set (hnodup : c.keys.Nodup) (name : String) (value : α) :
    (c.set name value).keys.Nodup := by
  rw [keys_set, List.nodup_cons]
  constructor
  · intro hmem
    simpa using List.mem_of_mem_take hmem
  · exact (hnodup.filter _).sublist (List.take_sublist _ _)

end Getting

/-- One cache holds all that another one holds, in the same order, and has as much room left. -/
structure Covers (large small : Cache α) : Prop where
  entries : small.entries.Sublist large.entries
  nodup : large.keys.Nodup
  positive : 0 < small.capacity
  capacity : small.capacity ≤ large.capacity
  room : small.capacity + large.size ≤ large.capacity + small.size
  hits : small.hits ≤ large.hits

namespace Covers

section Entries

theorem keys (h : Covers large small) : small.keys.Sublist large.keys :=
  h.entries.map Prod.fst

/-- What the small cache holds, the large one holds. -/
theorem held? (h : Covers large small) (hheld : small.held? name = some value) :
    large.held? name = some value := by
  obtain ⟨before, after, hentries, -⟩ := List.lookup_eq_some_iff.mp hheld
  have hmem : (name, value) ∈ small.entries := by
    rw [hentries]
    exact List.mem_append_right before List.mem_cons_self
  exact Dictionary.lookup_of_mem h.nodup (h.entries.subset hmem)

theorem contains (h : Covers large small) (hcontains : small.contains name = true) :
    large.contains name = true :=
  contains_iff.mpr (h.keys.subset (contains_iff.mp hcontains))

end Entries

section Uses

theorem new {m n : Nat} (h : m ≤ n) : Covers (Cache.new n : Cache α) (Cache.new m) where
  entries := List.Sublist.refl _
  nodup := List.nodup_nil
  positive := Nat.lt_of_lt_of_le Nat.zero_lt_one (Nat.le_max_left 1 m)
  capacity := by
    simp only [Cache.new]
    omega
  room := by
    simp only [Cache.new, size, List.length_nil]
    omega
  hits := Nat.le_refl _

theorem clear (h : Covers large small) : Covers large.clear small.clear where
  entries := List.Sublist.refl _
  nodup := List.nodup_nil
  positive := h.positive
  capacity := h.capacity
  room := by
    have hcapacity := h.capacity
    simpa [Cache.clear, size] using hcapacity
  hits := h.hits

theorem others (h : Covers large small) (name : String) :
    (others name small.entries).Sublist (others name large.entries) :=
  h.entries.filter _

/-- Without a name, the small cache still has no more room left than the large one. -/
theorem room_others (h : Covers large small) (name : String) :
    small.capacity + (Cache.others name large.entries).length ≤
      large.capacity + (Cache.others name small.entries).length := by
  have hlength (c : Cache α) :
      (Cache.others name c.entries).length = (c.keys.filter (· != name)).length := by
    rw [Cache.keys, ← map_others, List.length_map]
  have hroom := h.room
  rw [← length_keys, ← length_keys] at hroom
  rw [hlength, hlength]
  by_cases hname : name ∈ small.keys
  · have hsmall := length_filter_ne_add_one (h.nodup.sublist h.keys) hname
    have hlarge := length_filter_ne_add_one h.nodup (h.keys.subset hname)
    omega
  · rw [filter_ne_eq_self hname]
    have hlarge := List.length_filter_le (· != name) large.keys
    omega

theorem invalidate (h : Covers large small) (name : String) :
    Covers (large.invalidate name).2 (small.invalidate name).2 where
  entries := h.others name
  nodup := by
    rw [keys_invalidate]
    exact h.nodup.filter _
  positive := h.positive
  capacity := h.capacity
  room := h.room_others name
  hits := h.hits

theorem set (h : Covers large small) (name : String) (value : α) :
    Covers (large.set name value) (small.set name value) where
  entries := by
    -- Where the large cache has to give up an entry, the small one has to, too.
    have hroom := h.room_others name
    have hpositive := h.positive
    refine List.Sublist.cons_cons _ (take_sublist_take (h.others name) ?_)
    omega
  nodup := nodup_set h.nodup name value
  positive := h.positive
  capacity := h.capacity
  room := by
    have hroom := h.room_others name
    have hpositive := h.positive
    have hcapacity := h.capacity
    simp only [Cache.set, size, List.length_cons, List.length_take]
    omega
  hits := h.hits

/-- A name that both caches hold comes to the front of both, one that only the large cache holds to
the front of that. -/
theorem entries_get (h : Covers large small) (name : String) :
    (small.get name).2.entries.Sublist (large.get name).2.entries := by
  cases hsmall : small.held? name with
  | some value =>
      rw [get_of_held? hsmall, get_of_held? (h.held? hsmall)]
      exact (h.others name).cons_cons _
  | none =>
      rw [get_of_not_held? hsmall]
      cases hlarge : large.held? name with
      | none =>
          rw [get_of_not_held? hlarge]
          exact h.entries
      | some value =>
          rw [get_of_held? hlarge]
          have hothers := h.others name
          rw [others_eq_self hsmall] at hothers
          exact hothers.cons _

theorem hits_get (h : Covers large small) (name : String) :
    (small.get name).2.hits ≤ (large.get name).2.hits := by
  have hhits := h.hits
  cases hsmall : small.held? name with
  | some value =>
      rw [get_of_held? hsmall, get_of_held? (h.held? hsmall)]
      exact Nat.succ_le_succ hhits
  | none =>
      rw [get_of_not_held? hsmall]
      cases hlarge : large.held? name with
      | none =>
          rw [get_of_not_held? hlarge]
          exact hhits
      | some value =>
          rw [get_of_held? hlarge]
          exact Nat.le_succ_of_le hhits

theorem get (h : Covers large small) (name : String) :
    Covers (large.get name).2 (small.get name).2 where
  entries := h.entries_get name
  nodup := nodup_get h.nodup name
  positive := by
    rw [capacity_get]
    exact h.positive
  capacity := by
    rw [capacity_get, capacity_get]
    exact h.capacity
  room := by
    rw [capacity_get, capacity_get, size_get h.nodup, size_get (h.nodup.sublist h.keys)]
    exact h.room
  hits := h.hits_get name

end Uses

end Covers

section Runs

/-- An answer finds what another one found. -/
def Answer.Covers : Answer α → Answer α → Prop
  | .value found', .value found => ∀ value, found = some value → found' = some value
  | .truth holds', .truth holds => holds = true → holds' = true
  | .nothing, .nothing => True
  | _, _ => False

/-- Two caches were used alike, and one of them found what the other one found. -/
def Event.Covers (event' event : Event α) : Prop :=
  event'.use = event.use ∧ event'.answer.Covers event.answer

/-- To store a value only if there is none. -/
def Use.insertsIfAbsent : Use α → Bool
  | .insertIfAbsent _ _ => true
  | _ => false

/-- One use of both caches. -/
theorem Covers.step (h : Covers large small) {use : Use α} (huse : use.insertsIfAbsent = false) :
    (large.step use).1.Covers (small.step use).1 ∧
      Covers (large.step use).2 (small.step use).2 := by
  cases use with
  | get name =>
      refine ⟨?_, h.get name⟩
      intro value hvalue
      rw [get_fst] at hvalue ⊢
      exact h.held? hvalue
  | set name value =>
      exact ⟨trivial, h.set name value⟩
  | insertIfAbsent name value =>
      cases huse
  | invalidate name =>
      exact ⟨h.contains, h.invalidate name⟩
  | contains name =>
      exact ⟨h.contains, h⟩
  | clear =>
      exact ⟨trivial, h.clear⟩

/-- A whole run of both caches. -/
theorem Covers.run {m n : Nat} (hle : m ≤ n) {uses : List (Use α)}
    (huses : ∀ use ∈ uses, use.insertsIfAbsent = false) :
    List.Forall₂ Event.Covers (Cache.run n uses).1 (Cache.run m uses).1 ∧
      Covers (Cache.run n uses).2 (Cache.run m uses).2 := by
  have hfold : ∀ x y : Past α × Cache α, List.Forall₂ Event.Covers x.1 y.1 → Covers x.2 y.2 →
      List.Forall₂ Event.Covers (uses.foldl live x).1 (uses.foldl live y).1 ∧
        Covers (uses.foldl live x).2 (uses.foldl live y).2 := by
    induction uses with
    | nil =>
        exact fun _ _ hpast hcovers => ⟨hpast, hcovers⟩
    | cons use rest ih =>
        intro x y hpast hcovers
        obtain ⟨huse, hrest⟩ := List.forall_mem_cons.mp huses
        obtain ⟨hanswer, hafter⟩ := hcovers.step huse
        exact ih hrest (live x use) (live y use) (.cons ⟨rfl, hanswer⟩ hpast) hafter
  exact hfold _ _ .nil (.new hle)

/--
Two new caches are used alike, and nothing is stored only if there is none.  At every moment the
cache with more room has answered as the other one wherever that one found something, and it holds
all that the other one holds: the same values, with the names in the same order.  So it has found a
value at least as often.
-/
theorem larger_finds_more {m n : Nat} (hle : m ≤ n) {uses : List (Use α)}
    (huses : ∀ use ∈ uses, use.insertsIfAbsent = false) (moment : Nat) :
    let small := run m (uses.take moment)
    let large := run n (uses.take moment)
    List.Forall₂ Event.Covers large.1 small.1 ∧
      (∀ name value, (small.2.get name).1 = some value → (large.2.get name).1 = some value) ∧
      (∀ name, small.2.contains name = true → large.2.contains name = true) ∧
      small.2.keys.Sublist large.2.keys ∧
      small.2.hits ≤ large.2.hits := by
  intro small large
  have hbefore : ∀ use ∈ uses.take moment, use.insertsIfAbsent = false :=
    fun use hmem => huses use (List.mem_of_mem_take hmem)
  obtain ⟨hpast, hcovers⟩ := Covers.run hle hbefore
  refine ⟨hpast, ?_, fun _ => hcovers.contains, hcovers.keys, hcovers.hits⟩
  intro name value hget
  rw [get_fst] at hget ⊢
  exact hcovers.held? hget

/-- Uses after which two caches hold their names in different orders but for what both hold. -/
def drifting : List (Use Nat) :=
  [.set "a" 1, .set "b" 2, .set "c" 3, .get "a", .set "d" 4, .get "c"]

theorem larger_finds_more_drifting :
    2 ≤ 3 ∧ (∀ use ∈ drifting, use.insertsIfAbsent = false) ∧
      (run 2 drifting).2.keys = ["c", "d"] ∧ (run 3 drifting).2.keys = ["c", "d", "a"] ∧
      (run 2 drifting).2.keys.Sublist (run 3 drifting).2.keys ∧
      (run 2 drifting).2.hits = 1 ∧ (run 3 drifting).2.hits = 2 ∧
      (run 2 drifting).2.hits ≤ (run 3 drifting).2.hits := by
  have huses : ∀ use ∈ drifting, use.insertsIfAbsent = false := by
    decide
  obtain ⟨-, -, -, hkeys, hhits⟩ :=
    larger_finds_more (m := 2) (n := 3) (by decide) huses drifting.length
  exact ⟨by decide, huses, by decide, by decide, hkeys, by decide, by decide, hhits⟩

/-- The exception: the small cache takes a value that the large one refuses. -/
example :
    let uses : List (Use Nat) := [.set "a" 1, .set "b" 2, .insertIfAbsent "a" 3]
    ((run 1 uses).2.get "a").1 = some 3 ∧ ((run 2 uses).2.get "a").1 = some 1 := by
  decide

end Runs

end Cache
end PromptBook

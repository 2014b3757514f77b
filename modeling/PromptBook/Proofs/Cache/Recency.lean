import PromptBook.Proofs.Cache.Entries
import PromptBook.Proofs.Cache.Promotions
import Mathlib.Data.List.Basic

/-!
# What the past of a cache says about it

Over any run the names of a cache stand in the order in which they were promoted last, the value
under a name is the one that was stored there last, and the counts are those of the events.  The name
at the end is therefore the one to go when a new name needs its room.

**Results.**
* `Recency.of_change`, `Recency.run`: one event, and a whole run.
* `mem_keys_step_iff`: which names there are after one use.
* `recency_run`: what a run of a new cache comes to.
-/

namespace PromptBook
namespace Cache

variable {α : Type}

section Keys

variable {c : Cache α} {name key : String} {value : α}

theorem map_others (name : String) (entries : List (String × α)) :
    (others name entries).map (·.1) = (entries.map (·.1)).filter (· != name) := by
  simp [others, List.filter_map, Function.comp_def]

theorem keys_set (c : Cache α) (name : String) (value : α) :
    (c.set name value).keys = name :: (c.keys.filter (· != name)).take (c.capacity - 1) := by
  simp [keys, set, map_others, List.map_take]

theorem keys_invalidate (c : Cache α) (name : String) :
    (c.invalidate name).2.keys = c.keys.filter (· != name) :=
  map_others name c.entries

theorem lookup_isSome_iff {entries : List (String × α)} :
    (entries.lookup name).isSome = true ↔ name ∈ entries.map (·.1) := by
  induction entries with
  | nil =>
      simp
  | cons entry rest ih =>
      obtain ⟨other, old⟩ := entry
      by_cases h : name = other
      · simp [h]
      · have hne : (name == other) = false := by
          simp [h]
        simp [List.lookup_cons, hne, h, ih]

/-- What is held under other names is held. -/
theorem lookup_of_lookup_others {entries : List (String × α)}
    (h : (others name entries).lookup key = some value) : entries.lookup key = some value := by
  have hne : key ≠ name := by
    have hmem := lookup_isSome_iff.mp (Option.isSome_of_mem h)
    rw [map_others] at hmem
    simpa using (List.mem_filter.mp hmem).2
  rwa [lookup_others_ne hne] at h

theorem held?_isSome_iff : (c.held? name).isSome = true ↔ name ∈ c.keys :=
  lookup_isSome_iff

theorem contains_iff : c.contains name = true ↔ name ∈ c.keys := by
  simp [contains, keys]

theorem get_of_held? (h : c.held? name = some value) :
    c.get name =
      (some value,
        { c with entries := (name, value) :: others name c.entries, hits := c.hits + 1 }) := by
  rw [held?] at h
  simp [get, h]

theorem get_of_not_held? (h : c.held? name = none) :
    c.get name = (none, { c with misses := c.misses + 1 }) := by
  rw [held?] at h
  simp [get, h]

variable {names : List String}

theorem length_filter_ne_lt (h : name ∈ names) :
    (names.filter (· != name)).length < names.length :=
  List.length_filter_lt_length_iff_exists.mpr ⟨name, h, by simp⟩

theorem length_filter_ne_add_one (hnodup : names.Nodup) (h : name ∈ names) :
    (names.filter (· != name)).length + 1 = names.length := by
  rw [← hnodup.erase_eq_filter]
  exact List.length_erase_add_one h

theorem filter_ne_eq_self (h : name ∉ names) : names.filter (· != name) = names := by
  rw [List.filter_eq_self]
  intro key hkey
  rw [bne_iff_ne]
  rintro rfl
  exact h hkey

end Keys

section Steps

variable {c c' : Cache α} {past : Past α} {event : Event α} {room : Nat}

/-- An event that promotes nothing and asks for no value. -/
def Event.Idle (event : Event α) : Prop :=
  event.promoted? = none ∧ event.stored? = none ∧ event.isHit = false ∧ event.isMiss = false

/-- What an event can do to a cache. -/
inductive Change (c : Cache α) : Event α → Cache α → Prop
  | found {name : String} {value : α} (hheld : c.held? name = some value) :
      Change c ⟨.get name, .value (some value)⟩
        { c with entries := (name, value) :: others name c.entries, hits := c.hits + 1 }
  | missed {name : String} :
      Change c ⟨.get name, .value none⟩ { c with misses := c.misses + 1 }
  | stored {event : Event α} {name : String} {value : α}
      (hpromoted : event.promoted? = some name) (hstored : event.stored? = some (name, value))
      (hhit : event.isHit = false) (hmiss : event.isMiss = false) :
      Change c event (c.set name value)
  | removed {event : Event α} {entries : List (String × α)} (hidle : event.Idle)
      (hsub : (entries.map (·.1)).Sublist c.keys)
      (hheld : ∀ name value, entries.lookup name = some value → c.held? name = some value) :
      Change c event { c with entries }

theorem change_step (c : Cache α) (use : Use α) :
    Change c ⟨use, (c.step use).1⟩ (c.step use).2 := by
  cases use with
  | get name =>
      simp only [step]
      cases h : c.held? name with
      | some value =>
          rw [get_of_held? h]
          exact .found h
      | none =>
          rw [get_of_not_held? h]
          exact .missed
  | set name value =>
      exact .stored rfl rfl rfl rfl
  | insertIfAbsent name value =>
      simp only [step, insertIfAbsent]
      cases c.contains name with
      | true =>
          exact .removed ⟨rfl, rfl, rfl, rfl⟩ (.refl _) fun _ _ h => h
      | false =>
          exact .stored rfl rfl rfl rfl
  | invalidate name =>
      refine .removed ⟨rfl, rfl, rfl, rfl⟩ ?_ fun _ _ => lookup_of_lookup_others
      rw [map_others]
      exact List.filter_sublist
  | contains name =>
      exact .removed ⟨rfl, rfl, rfl, rfl⟩ (.refl _) fun _ _ h => h
  | clear =>
      exact .removed ⟨rfl, rfl, rfl, rfl⟩ (List.nil_sublist _) fun _ _ h => nomatch h

/-- A cache with room for some values and what its past says about it. -/
structure Recency (room : Nat) (past : Past α) (c : Cache α) : Prop where
  capacity : c.capacity = room
  size_le : c.size ≤ room
  promoted : Promoted past c.keys
  /-- Under a name there is the value that was stored there last. -/
  held : ∀ name value, c.held? name = some value → past.lastStored? name = some value
  hits : c.hits = past.countP Event.isHit
  misses : c.misses = past.countP Event.isMiss

theorem Recency.new (capacity : Nat) : Recency (max 1 capacity) [] (new capacity : Cache α) where
  capacity := rfl
  size_le := Nat.zero_le _
  promoted := .nil []
  held _ _ h := nomatch h
  hits := rfl
  misses := rfl

theorem length_keys (c : Cache α) : c.keys.length = c.size := by
  simp [keys, size]

theorem Recency.of_found (h : Recency room past c) {name : String} {value : α}
    (hheld : c.held? name = some value) :
    Recency room (⟨.get name, .value (some value)⟩ :: past)
      { c with entries := (name, value) :: others name c.entries, hits := c.hits + 1 } where
  capacity := h.capacity
  size_le := by
    have hmem : name ∈ c.keys := held?_isSome_iff.mp (Option.isSome_of_mem hheld)
    have hlt := length_filter_ne_lt hmem
    have hle := h.size_le
    rw [← length_keys] at hle ⊢
    rw [keys, List.map_cons, map_others, List.length_cons]
    exact Nat.le_trans hlt hle
  promoted := by
    have hothers : Promoted past (c.keys.filter (· != name)) :=
      h.promoted.sublist List.filter_sublist
    rw [keys, List.map_cons, map_others]
    exact hothers.cons rfl (by simp)
  held other x hx := by
    have hget := held?_get c name other
    rw [get_of_held? hheld] at hget
    exact h.held other x (hget.symm.trans hx)
  hits := by
    rw [List.countP_cons_of_pos rfl, h.hits]
  misses := by
    rw [List.countP_cons_of_neg Bool.false_ne_true, h.misses]

theorem Recency.of_missed (h : Recency room past c) (name : String) :
    Recency room (⟨.get name, .value none⟩ :: past) { c with misses := c.misses + 1 } where
  capacity := h.capacity
  size_le := h.size_le
  promoted := h.promoted.idle fun _ _ => nofun
  held := h.held
  hits := by
    rw [List.countP_cons_of_neg Bool.false_ne_true, h.hits]
  misses := by
    rw [List.countP_cons_of_pos rfl, h.misses]

theorem Recency.of_stored (h : Recency room past c) (hroom : 0 < room) {name : String} {value : α}
    (hpromoted : event.promoted? = some name) (hstored : event.stored? = some (name, value))
    (hhit : event.isHit = false) (hmiss : event.isMiss = false) :
    Recency room (event :: past) (c.set name value) where
  capacity := h.capacity
  size_le := by
    rw [← length_keys, keys_set, List.length_cons, List.length_take, h.capacity]
    omega
  promoted := by
    have hothers : Promoted past ((c.keys.filter (· != name)).take (c.capacity - 1)) :=
      h.promoted.sublist ((List.take_sublist _ _).trans List.filter_sublist)
    rw [keys_set]
    refine hothers.cons hpromoted fun hmem => ?_
    simpa using List.mem_of_mem_take hmem
  held other x hx := by
    rcases held?_set hx with ⟨rfl, rfl⟩ | ⟨hne, hx⟩
    · simp [Past.lastStored?, hstored]
    · simpa [Past.lastStored?, hstored, hne.symm] using h.held other x hx
  hits := by
    rw [List.countP_cons_of_neg (by simp [hhit])]
    exact h.hits
  misses := by
    rw [List.countP_cons_of_neg (by simp [hmiss])]
    exact h.misses

theorem Recency.of_removed (h : Recency room past c) (hidle : event.Idle)
    {entries : List (String × α)} (hsub : (entries.map (·.1)).Sublist c.keys)
    (hheld : ∀ name value, entries.lookup name = some value → c.held? name = some value) :
    Recency room (event :: past) { c with entries } := by
  obtain ⟨hpromoted, hstored, hhit, hmiss⟩ := hidle
  constructor
  · exact h.capacity
  · have hle := hsub.length_le
    rw [length_keys, List.length_map] at hle
    exact Nat.le_trans hle h.size_le
  · exact (h.promoted.sublist hsub).idle fun _ _ => by simp [hpromoted]
  · intro name value hvalue
    simpa [Past.lastStored?, hstored] using h.held name value (hheld name value hvalue)
  · rw [List.countP_cons_of_neg (by simp [hhit])]
    exact h.hits
  · rw [List.countP_cons_of_neg (by simp [hmiss])]
    exact h.misses

theorem Recency.of_change (h : Recency room past c) (hroom : 0 < room)
    (hchange : Change c event c') : Recency room (event :: past) c' := by
  cases hchange with
  | found hheld =>
      exact h.of_found hheld
  | missed =>
      exact h.of_missed _
  | stored hpromoted hstored hhit hmiss =>
      exact h.of_stored hroom hpromoted hstored hhit hmiss
  | removed hidle hsub hheld =>
      exact h.of_removed hidle hsub hheld

theorem Recency.run (capacity : Nat) (uses : List (Use α)) :
    Recency (max 1 capacity) (run capacity uses).1 (run capacity uses).2 := by
  have hroom : 0 < max 1 capacity := by
    omega
  have hfold : ∀ x : Past α × Cache α, Recency (max 1 capacity) x.1 x.2 →
      Recency (max 1 capacity) (uses.foldl live x).1 (uses.foldl live x).2 := by
    induction uses with
    | nil =>
        exact fun _ h => h
    | cons use rest ih =>
        intro x h
        exact ih (live x use) (h.of_change hroom (change_step x.2 use))
  exact hfold _ (.new capacity)

end Steps

section Names

variable {c : Cache α} {past : Past α} {room : Nat} {name other : String}

/-- To store a value under a name takes another name out of a cache: there is no room for the new
one, and all but the other were promoted after it. -/
structure Evicts (past : Past α) (c : Cache α) (name other : String) : Prop where
  absent : name ∉ c.keys
  full : c.size = c.capacity
  oldest : ∀ key ∈ c.keys, key ≠ other → past.Later key other

/-- What takes a name out of a cache. -/
inductive Drops (past : Past α) (c : Cache α) (other : String) : Use α → Prop
  | invalidated : Drops past c other (.invalidate other)
  | cleared : Drops past c other .clear
  | set {name : String} {value : α} (h : Evicts past c name other) :
      Drops past c other (.set name value)
  | inserted {name : String} {value : α} (h : Evicts past c name other) :
      Drops past c other (.insertIfAbsent name value)

theorem drops_set_iff {value : α} :
    Drops past c other (.set name value) ↔ Evicts past c name other := by
  constructor
  · rintro ⟨⟩
    assumption
  · exact .set

theorem drops_insertIfAbsent_iff {value : α} :
    Drops past c other (.insertIfAbsent name value) ↔ Evicts past c name other := by
  constructor
  · rintro ⟨⟩
    assumption
  · exact .inserted

theorem not_drops_get : ¬Drops past c other (.get name) := nofun

theorem not_drops_contains : ¬Drops past c other (.contains name) := nofun

theorem drops_invalidate_iff : Drops past c other (.invalidate name) ↔ name = other := by
  constructor
  · rintro ⟨⟩
    rfl
  · rintro rfl
    exact .invalidated

theorem mem_keys_set_iff (h : Recency room past c) (hroom : 0 < room) (value : α) :
    other ∈ (c.set name value).keys ↔
      name = other ∨ other ∈ c.keys ∧ ¬Evicts past c name other := by
  rw [keys_set, List.mem_cons, h.capacity, eq_comm]
  by_cases hname : name ∈ c.keys
  · -- One name goes and one comes, so there is room for all others.
    have hnot : ¬Evicts past c name other := fun hevicts => hevicts.absent hname
    have hlength : (c.keys.filter (· != name)).length ≤ room - 1 := by
      have hlt := length_filter_ne_lt hname
      have hle := h.size_le
      rw [length_keys] at hlt
      omega
    rw [List.take_of_length_le hlength]
    by_cases heq : name = other
    · simp [heq]
    · simp [hnot, Ne.symm heq]
  · have hevicts : Evicts past c name other ↔ c.keys.length = room ∧
        ∀ key ∈ c.keys, key ≠ other → past.Later key other := by
      rw [length_keys, ← h.capacity]
      exact ⟨fun h => ⟨h.full, h.oldest⟩, fun h => ⟨hname, h.1, h.2⟩⟩
    rw [filter_ne_eq_self hname,
      h.promoted.mem_take_iff hroom (by rw [length_keys]; exact h.size_le), hevicts]

/-- After one use there are the names that were there, but for one that the use takes out, and the
one that it stores. -/
theorem mem_keys_step_iff (h : Recency room past c) (hroom : 0 < room) (use : Use α) :
    name ∈ (c.step use).2.keys ↔
      (∃ value, Event.stored? ⟨use, (c.step use).1⟩ = some (name, value)) ∨
        name ∈ c.keys ∧ ¬Drops past c name use := by
  cases use with
  | get key =>
      simp only [step, ← held?_isSome_iff, held?_get]
      cases (c.get key).1 <;> simp [Event.stored?, not_drops_get]
  | set key value =>
      rw [drops_set_iff]
      simpa [step, Event.stored?] using mem_keys_set_iff h hroom value
  | insertIfAbsent key value =>
      rw [drops_insertIfAbsent_iff]
      cases hcontains : c.contains key with
      | true =>
          have hnot : ¬Evicts past c key name := fun hevicts =>
            hevicts.absent (contains_iff.mp hcontains)
          simp [step, Event.stored?, insertIfAbsent, hcontains, hnot]
      | false =>
          simpa [step, Event.stored?, insertIfAbsent, hcontains] using
            mem_keys_set_iff h hroom value
  | invalidate key =>
      rw [drops_invalidate_iff]
      simp [step, Event.stored?, keys_invalidate, @eq_comm _ key name]
  | contains key =>
      simp [step, Event.stored?, not_drops_contains]
  | clear =>
      have hdrops : Drops past c name .clear := .cleared
      simp [step, Event.stored?, hdrops, keys, clear]

end Names

/--
What a run of a new cache comes to.  Its names are distinct, no more than it has room for, and stand
in the order of their last promotions.  A use takes out a name only by removing it, by clearing the
cache, or because a new name is stored where there is no room and the other was promoted first.  A
value is found exactly under these names, and is the one that was stored there last.  To look
whether there is a value, or to store one only if there is none, changes nothing if there is one.
-/
theorem recency_run (capacity : Nat) (uses : List (Use α)) :
    let past := (run capacity uses).1
    let c := (run capacity uses).2
    (c.keys.Nodup ∧ c.keys.length = c.size ∧ c.size ≤ c.capacity ∧ c.capacity = max 1 capacity) ∧
      Promoted past c.keys ∧
      (∀ use name, name ∈ (c.step use).2.keys ↔
        (∃ value, Event.stored? ⟨use, (c.step use).1⟩ = some (name, value)) ∨
          name ∈ c.keys ∧ ¬Drops past c name use) ∧
      (∀ name, ((c.get name).1.isSome = true ↔ name ∈ c.keys) ∧
        (c.contains name = true ↔ name ∈ c.keys)) ∧
      (∀ name value, (c.get name).1 = some value → past.lastStored? name = some value) ∧
      (∀ name, (c.step (.contains name)).2 = c) ∧
      (∀ name value, name ∈ c.keys → c.step (.insertIfAbsent name value) = (.truth false, c)) ∧
      c.hits = past.countP Event.isHit ∧
      c.misses = past.countP Event.isMiss := by
  intro past c
  have h : Recency (max 1 capacity) past c := .run capacity uses
  have hroom : 0 < max 1 capacity := by
    omega
  refine ⟨⟨h.promoted.nodup, length_keys c, ?_, h.capacity⟩, h.promoted, ?_, ?_, ?_, ?_, ?_,
    h.hits, h.misses⟩
  · rw [h.capacity]
    exact h.size_le
  · intro use name
    exact mem_keys_step_iff h hroom use
  · intro name
    rw [get_fst]
    exact ⟨held?_isSome_iff, contains_iff⟩
  · intro name value hget
    rw [get_fst] at hget
    exact h.held name value hget
  · exact fun _ => rfl
  · intro name value hname
    simp [step, insertIfAbsent, contains_iff.mpr hname]

/-- A value that was asked for outlives one that was stored after it. -/
example :
    (run 2 [.set "a" 1, .set "b" 2, .get "a", .insertIfAbsent "c" 3]).2.keys = ["c", "a"] := by
  decide

end Cache
end PromptBook

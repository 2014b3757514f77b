import PromptBook.Proofs.Cache.Recency
import Mathlib.Data.Finset.Card
import Mathlib.Data.List.Induction

/-!
# How long a promoted name stays

A name that was just promoted stays while fewer other names are used than the cache has room for,
and goes at the latest when as many others were stored.  Both bounds follow from the order of the
last promotions.  To take the name out, all others of a full cache and one more must have been
promoted after it; and while it stays, a name that was promoted after it cannot be taken out.

**Results.**
* `mem_used_of_later`: what was promoted after a name was used since.
* `Evicts.card_le`: how many names are used before another one is taken out.
* `mem_keys_of_few`, `not_mem_keys_of_many`: the two bounds.
* `promotion_protects`: both, and the value that is kept.
-/

namespace PromptBook
namespace Cache

variable {α : Type}

namespace Use

/-- The name that a value is asked for or stored under. -/
def named? : Use α → Option String
  | .get name => some name
  | .set name _ => some name
  | .insertIfAbsent name _ => some name
  | .invalidate _ => none
  | .contains _ => none
  | .clear => none

/-- The name that a value is stored under, whether there is one or not. -/
def set? : Use α → Option String
  | .set name _ => some name
  | _ => none

end Use

/-- The names that values are asked for or stored under. -/
def used (uses : List (Use α)) : Finset String :=
  (uses.filterMap Use.named?).toFinset

/-- The names that values are stored under, whether there are some or not. -/
def filled (uses : List (Use α)) : Finset String :=
  (uses.filterMap Use.set?).toFinset

section Times

variable {capacity time : Nat} {earlier later : List (Use α)} {use : Use α} {answer : Answer α}
  {past : Past α} {event : Event α} {name other : String}

theorem mem_used_concat_iff :
    name ∈ used (later ++ [use]) ↔ name ∈ used later ∨ use.named? = some name := by
  simp [used]

theorem mem_filled_concat_iff :
    name ∈ filled (later ++ [use]) ↔ name ∈ filled later ∨ use.set? = some name := by
  simp [filled]

theorem run_concat (capacity : Nat) (uses : List (Use α)) (use : Use α) :
    run capacity (uses ++ [use]) = live (run capacity uses) use := by
  simp [run]

theorem length_past_run (capacity : Nat) (uses : List (Use α)) :
    (run capacity uses).1.length = uses.length := by
  induction uses using List.reverseRecOn with
  | nil =>
      rfl
  | append_singleton uses use ih =>
      rw [run_concat, live, List.length_cons, ih, List.length_append, List.length_singleton]

theorem named?_of_promoted? (h : Event.promoted? ⟨use, answer⟩ = some name) :
    use.named? = some name := by
  cases use with
  | get key =>
      rcases answer with (_ | value) | holds | _
      · cases h
      · exact h
      · cases h
      · cases h
  | set key value =>
      exact h
  | insertIfAbsent key value =>
      rcases answer with found | (_ | _) | _
      · cases h
      · cases h
      · exact h
      · cases h
  | invalidate key | contains key | clear =>
      cases h

theorem promoted?_ne_of_named?_ne (h : use.named? ≠ some name) (answer : Answer α) :
    Event.promoted? ⟨use, answer⟩ ≠ some name :=
  fun hpromoted => h (named?_of_promoted? hpromoted)

theorem promoted?_of_set? (h : use.set? = some name) (answer : Answer α) :
    Event.promoted? ⟨use, answer⟩ = some name := by
  cases use with
  | set key value =>
      exact h
  | get key | insertIfAbsent key value | invalidate key | contains key | clear =>
      cases h

theorem promoted?_of_stored? {value : α} (h : event.stored? = some (name, value)) :
    event.promoted? = some name := by
  obtain ⟨use, answer⟩ := event
  cases use with
  | get key =>
      cases h
  | set key value | insertIfAbsent key value | invalidate key | contains key | clear =>
      simp [Event.promoted?, h]

/-- What an event promotes comes after all that it does not. -/
theorem Past.later_cons (hevent : event.promoted? = some name)
    (hother : event.promoted? ≠ some other) (htime : past.promotedAt? other = some time) :
    Past.Later (event :: past) name other := by
  refine ⟨past.length, time, promotedAt?_cons_self hevent, ?_, lt_length_of_promotedAt? htime⟩
  rw [promotedAt?_cons_ne hother, htime]

/-- A name that was promoted at some time is not taken to have been promoted earlier. -/
theorem exists_promotedAt?_ge (h : (run capacity earlier).1.promotedAt? name = some time)
    (later : List (Use α)) :
    ∃ time', (run capacity (earlier ++ later)).1.promotedAt? name = some time' ∧ time ≤ time' := by
  induction later using List.reverseRecOn with
  | nil =>
      exact ⟨time, by rw [List.append_nil, h], Nat.le_refl time⟩
  | append_singleton later use ih =>
      obtain ⟨time', htime', hle⟩ := ih
      rw [← List.append_assoc, run_concat, live]
      by_cases hevent :
          Event.promoted? ⟨use, ((run capacity (earlier ++ later)).2.step use).1⟩ = some name
      · have hlt := Past.lt_length_of_promotedAt? htime'
        exact ⟨_, Past.promotedAt?_cons_self hevent, by omega⟩
      · exact ⟨time', by rw [Past.promotedAt?_cons_ne hevent, htime'], hle⟩

/-- The time of a promotion is a place among the uses. -/
theorem mem_used_of_promotedAt?
    (h : (run capacity (earlier ++ later)).1.promotedAt? name = some time)
    (htime : earlier.length ≤ time) : name ∈ used later := by
  induction later using List.reverseRecOn with
  | nil =>
      rw [List.append_nil] at h
      have hlt := Past.lt_length_of_promotedAt? h
      rw [length_past_run] at hlt
      omega
  | append_singleton later use ih =>
      rw [← List.append_assoc, run_concat, live] at h
      rw [mem_used_concat_iff]
      by_cases hevent :
          Event.promoted? ⟨use, ((run capacity (earlier ++ later)).2.step use).1⟩ = some name
      · exact Or.inr (named?_of_promoted? hevent)
      · rw [Past.promotedAt?_cons_ne hevent] at h
        exact Or.inl (ih h)

/-- The last use promoted the name. -/
def JustPromoted (capacity : Nat) (uses : List (Use α)) (name : String) : Prop :=
  (run capacity uses).1.head?.bind Event.promoted? = some name

theorem JustPromoted.exists_last {uses : List (Use α)} (h : JustPromoted capacity uses name) :
    ∃ before use, uses = before ++ [use] ∧
      Event.promoted? ⟨use, ((run capacity before).2.step use).1⟩ = some name := by
  rcases List.eq_nil_or_concat uses with rfl | ⟨before, use, rfl⟩
  · cases h
  · rw [List.concat_eq_append, JustPromoted, run_concat, live] at h
    exact ⟨before, use, List.concat_eq_append, h⟩

/-- What was promoted after a name was used since that name was promoted. -/
theorem mem_used_of_later (h : JustPromoted capacity earlier name)
    (hlater : Past.Later (run capacity (earlier ++ later)).1 other name) : other ∈ used later := by
  obtain ⟨before, use, rfl, hpromoted⟩ := h.exists_last
  have hat : (run capacity (before ++ [use])).1.promotedAt? name = some before.length := by
    rw [run_concat, live, Past.promotedAt?_cons_self hpromoted, length_past_run]
  obtain ⟨time, htime, hle⟩ := exists_promotedAt?_ge hat later
  obtain ⟨i, j, hi, hj, hlt⟩ := hlater
  rw [htime] at hj
  cases hj
  refine mem_used_of_promotedAt? hi ?_
  rw [List.length_append, List.length_singleton]
  omega

end Times

section Bounds

variable {capacity room : Nat} {earlier later : List (Use α)} {use : Use α} {past : Past α}
  {c c' : Cache α} {event : Event α} {name key : String}

theorem room_pos (capacity : Nat) : 0 < max 1 capacity := by
  omega

theorem mem_keys_of_promoted (hchange : Change c event c') (h : event.promoted? = some name) :
    name ∈ c'.keys := by
  cases hchange with
  | found hheld =>
      cases h
      exact List.mem_cons_self
  | missed =>
      cases h
  | stored hpromoted =>
      rw [hpromoted] at h
      cases h
      rw [keys_set]
      exact List.mem_cons_self
  | removed hidle =>
      rw [hidle.1] at h
      cases h

theorem JustPromoted.mem_keys (h : JustPromoted capacity earlier name) :
    name ∈ (run capacity earlier).2.keys := by
  obtain ⟨before, use, rfl, hpromoted⟩ := h.exists_last
  rw [run_concat]
  exact mem_keys_of_promoted (change_step _ use) hpromoted

/-- A name that a use leaves alone was there before if it is there afterwards. -/
theorem mem_keys_of_step (hrecency : Recency room past c) (hroom : 0 < room)
    (hleft : use.named? ≠ some name) (hmem : name ∈ (c.step use).2.keys) :
    name ∈ c.keys ∧ ¬Drops past c name use := by
  rcases (mem_keys_step_iff hrecency hroom use).mp hmem with ⟨value, hstored⟩ | hstays
  · exact absurd (named?_of_promoted? (promoted?_of_stored? hstored)) hleft
  · exact hstays

/-- Before a name is taken out for another one, so many others were promoted after it that the cache
is full of them and of the other one. -/
theorem Evicts.card_le (h : Evicts past c key name) (hrecency : Recency room past c)
    (hname : name ∈ c.keys) {names : Finset String}
    (hnames : ∀ other, past.Later other name → other ∈ names) (hkey : key ∈ names) :
    room ≤ (names.erase name).card := by
  have hne : key ≠ name := fun heq => h.absent (heq ▸ hname)
  have hsub : insert key (c.keys.toFinset.erase name) ⊆ names.erase name := by
    intro other hother
    rcases Finset.mem_insert.mp hother with rfl | hother
    · exact Finset.mem_erase.mpr ⟨hne, hkey⟩
    · obtain ⟨hother_ne, hmem⟩ := Finset.mem_erase.mp hother
      have hlater := h.oldest other (List.mem_toFinset.mp hmem) hother_ne
      exact Finset.mem_erase.mpr ⟨hother_ne, hnames other hlater⟩
  have habsent : key ∉ c.keys.toFinset.erase name := fun hmem =>
    h.absent (List.mem_toFinset.mp (Finset.mem_of_mem_erase hmem))
  have hall : c.keys.toFinset.card = room := by
    rw [List.toFinset_card_of_nodup hrecency.promoted.nodup, length_keys, h.full,
      hrecency.capacity]
  have hrest := Finset.card_erase_add_one (List.mem_toFinset.mpr hname)
  calc
    room = (insert key (c.keys.toFinset.erase name)).card := by
      rw [Finset.card_insert_of_notMem habsent, hrest, hall]
    _ ≤ (names.erase name).card := Finset.card_le_card hsub

/-- One use leaves a name where it is if too few others were used since to take it out. -/
theorem mem_keys_step_of_few (hrecency : Recency room past c) (hroom : 0 < room)
    (hname : name ∈ c.keys) (hkept : use ≠ .invalidate name ∧ use ≠ .clear)
    {names : Finset String} (hnames : ∀ other, past.Later other name → other ∈ names)
    (huse : ∀ key, use.named? = some key → key ∈ names)
    (hfew : (names.erase name).card < room) : name ∈ (c.step use).2.keys := by
  have hnot : ∀ key, use.named? = some key → ¬Evicts past c key name := by
    intro key hkey hevicts
    have hcard := hevicts.card_le hrecency hname hnames (huse key hkey)
    omega
  refine (mem_keys_step_iff hrecency hroom use).mpr (Or.inr ⟨hname, ?_⟩)
  rintro (_ | _ | hevicts | hevicts)
  · exact hkept.1 rfl
  · exact hkept.2 rfl
  · exact hnot _ rfl hevicts
  · exact hnot _ rfl hevicts

/-- A name stays while fewer others are used than there is room for. -/
theorem mem_keys_of_few (h : JustPromoted capacity earlier name)
    (hkept : ∀ use ∈ later, use ≠ .invalidate name ∧ use ≠ .clear)
    (hfew : ((used later).erase name).card < max 1 capacity) :
    name ∈ (run capacity (earlier ++ later)).2.keys := by
  induction later using List.reverseRecOn with
  | nil =>
      rw [List.append_nil]
      exact h.mem_keys
  | append_singleton later use ih =>
      obtain ⟨hbefore, huse⟩ := List.forall_mem_append.mp hkept
      have hmore : used later ⊆ used (later ++ [use]) :=
        fun _ hother => mem_used_concat_iff.mpr (Or.inl hother)
      have hmem : name ∈ (run capacity (earlier ++ later)).2.keys := by
        refine ih hbefore (Nat.lt_of_le_of_lt ?_ hfew)
        exact Finset.card_le_card (Finset.erase_subset_erase _ hmore)
      rw [← List.append_assoc, run_concat]
      refine mem_keys_step_of_few (.run capacity _) (room_pos capacity) hmem
        (huse use List.mem_cons_self) (fun other hlater => ?_) (fun key hkey => ?_) hfew
      · exact hmore (mem_used_of_later h hlater)
      · exact mem_used_concat_iff.mpr (Or.inr hkey)

/-- A cache holds a name that was promoted after another one. -/
structure Ahead (past : Past α) (c : Cache α) (other name : String) : Prop where
  mem : name ∈ c.keys
  later : past.Later name other

/-- Two names that a cache holds after a use that leaves the one alone and removes none: if the
other was ahead, it still is. -/
theorem Ahead.step (h : Ahead past c name key) (hrecency : Recency room past c) (hroom : 0 < room)
    (hleft : use.named? ≠ some name) (hkeep : use ≠ .invalidate key)
    (hmem : name ∈ (c.step use).2.keys) :
    Ahead (⟨use, (c.step use).1⟩ :: past) (c.step use).2 name key := by
  have hquiet := promoted?_ne_of_named?_ne hleft (c.step use).1
  obtain ⟨hbefore, hstays⟩ := mem_keys_of_step hrecency hroom hleft hmem
  constructor
  · refine (mem_keys_step_iff hrecency hroom use).mpr (Or.inr ⟨h.mem, ?_⟩)
    rintro (_ | _ | hevicts | hevicts)
    · exact hkeep rfl
    · exact hstays .cleared
    · exact h.later.asymm (hevicts.oldest name hbefore h.later.ne.symm)
    · exact h.later.asymm (hevicts.oldest name hbefore h.later.ne.symm)
  · by_cases hpromoted : Event.promoted? ⟨use, (c.step use).1⟩ = some key
    · obtain ⟨time, htime⟩ := hrecency.promoted.promoted name hbefore
      exact Past.later_cons hpromoted hquiet htime
    · exact h.later.cons hpromoted hquiet

/-- What is stored is ahead of a name that is left alone. -/
theorem Ahead.of_set (hrecency : Recency room past c) (hleft : use.named? ≠ some name)
    (hname : name ∈ c.keys) (hset : use.set? = some key) :
    Ahead (⟨use, (c.step use).1⟩ :: past) (c.step use).2 name key := by
  have hpromoted := promoted?_of_set? hset (c.step use).1
  obtain ⟨time, htime⟩ := hrecency.promoted.promoted name hname
  exact ⟨mem_keys_of_promoted (change_step c use) hpromoted,
    Past.later_cons hpromoted (promoted?_ne_of_named?_ne hleft _) htime⟩

/-- While a name stays that is left alone, all that is stored is ahead of it. -/
theorem ahead_of_filled (hleft : ∀ use ∈ later, use.named? ≠ some name)
    (hkept : ∀ use ∈ later, ∀ key, use ≠ .invalidate key)
    (hmem : name ∈ (run capacity (earlier ++ later)).2.keys) (hkey : key ∈ filled later) :
    Ahead (run capacity (earlier ++ later)).1 (run capacity (earlier ++ later)).2 name key := by
  induction later using List.reverseRecOn with
  | nil =>
      simp [filled] at hkey
  | append_singleton later use ih =>
      obtain ⟨hleft, huse⟩ := List.forall_mem_append.mp hleft
      obtain ⟨hkept, hkeep⟩ := List.forall_mem_append.mp hkept
      have hrecency := Recency.run capacity (earlier ++ later)
      have hroom := room_pos capacity
      rw [← List.append_assoc, run_concat] at hmem ⊢
      obtain ⟨hbefore, -⟩ := mem_keys_of_step hrecency hroom (huse use List.mem_cons_self) hmem
      rcases mem_filled_concat_iff.mp hkey with hkey | hkey
      · exact (ih hleft hkept hbefore hkey).step hrecency hroom (huse use List.mem_cons_self)
          (hkeep use List.mem_cons_self key) hmem
      · exact .of_set hrecency (huse use List.mem_cons_self) hbefore hkey

/-- A name that is left alone is gone when as many others were stored as there is room for. -/
theorem not_mem_keys_of_many (hleft : ∀ use ∈ later, use.named? ≠ some name)
    (hkept : ∀ use ∈ later, ∀ key, use ≠ .invalidate key)
    (hmany : max 1 capacity ≤ (filled later).card) :
    name ∉ (run capacity (earlier ++ later)).2.keys := by
  intro hmem
  have hrecency := Recency.run capacity (earlier ++ later)
  have hahead := fun key => @ahead_of_filled _ _ _ _ _ key hleft hkept hmem
  have habsent : name ∉ filled later := fun hname => (hahead name hname).later.ne rfl
  have hsub : insert name (filled later) ⊆ (run capacity (earlier ++ later)).2.keys.toFinset := by
    intro key hkey
    rw [List.mem_toFinset]
    rcases Finset.mem_insert.mp hkey with rfl | hkey
    · exact hmem
    · exact (hahead key hkey).mem
  have hcard := Finset.card_le_card hsub
  rw [Finset.card_insert_of_notMem habsent,
    List.toFinset_card_of_nodup hrecency.promoted.nodup, length_keys] at hcard
  have hsize := hrecency.size_le
  omega

end Bounds

/--
A name was promoted by the last use of a cache.  As long as it is not removed and fewer other names
are used than the cache has room for, the cache holds the value that was stored last under it.  If it
is left alone and no name is removed, it is gone when as many others were stored as there is room for.
-/
theorem promotion_protects {capacity : Nat} {earlier : List (Use α)} {name : String}
    (h : JustPromoted capacity earlier name) (later : List (Use α)) :
    let past := (run capacity (earlier ++ later)).1
    let c := (run capacity (earlier ++ later)).2
    ((∀ use ∈ later, use ≠ .invalidate name ∧ use ≠ .clear) →
        ((used later).erase name).card ≤ max 1 capacity - 1 →
        c.contains name = true ∧
          ∃ value, (c.get name).1 = some value ∧ past.lastStored? name = some value) ∧
      ((∀ use ∈ later, use.named? ≠ some name) →
        (∀ use ∈ later, ∀ key, use ≠ .invalidate key) →
        max 1 capacity ≤ (filled later).card →
        c.contains name = false ∧ (c.get name).1 = none) := by
  intro past c
  have hrecency : Recency (max 1 capacity) past c := .run capacity (earlier ++ later)
  constructor
  · intro hkept hfew
    have hmem : name ∈ c.keys := by
      refine mem_keys_of_few h hkept ?_
      have hroom := room_pos capacity
      omega
    obtain ⟨value, hvalue⟩ := Option.isSome_iff_exists.mp (held?_isSome_iff.mpr hmem)
    refine ⟨contains_iff.mpr hmem, value, ?_, hrecency.held name value hvalue⟩
    rw [get_fst, hvalue]
  · intro hleft hkept hmany
    have hnot : name ∉ c.keys := not_mem_keys_of_many hleft hkept hmany
    constructor
    · rw [← Bool.not_eq_true, contains_iff]
      exact hnot
    · rw [get_fst, ← Option.not_isSome_iff_eq_none, held?_isSome_iff]
      exact hnot

/-- Uses of which the last one asks for a name that is not the latest. -/
def askedAgain : List (Use Nat) :=
  [.set "a" 1, .set "b" 2, .get "a"]

/-- One other name is used in many ways, and a third one only looked for and removed. -/
def oneOther : List (Use Nat) :=
  [.set "b" 3, .get "b", .invalidate "b", .insertIfAbsent "b" 4, .set "a" 5, .get "b", .contains "c",
    .invalidate "c"]

/-- A refused value does not count, two that are stored do. -/
def twoOthers : List (Use Nat) :=
  [.insertIfAbsent "b" 3, .get "c", .set "c" 4, .set "c" 5, .set "d" 6]

theorem promotion_protects_asked :
    JustPromoted 2 askedAgain "a" ∧
      ((used oneOther).erase "a").card = 1 ∧
      ((run 2 (askedAgain ++ oneOther)).2.get "a").1 = some 5 ∧
      (filled twoOthers).card = 2 ∧
      ((run 2 (askedAgain ++ twoOthers)).2.get "a").1 = none := by
  have hasked : JustPromoted 2 askedAgain "a" := rfl
  have hone : ((used oneOther).erase "a").card = 1 := by decide
  have htwo : (filled twoOthers).card = 2 := by decide
  obtain ⟨hstays, -⟩ := promotion_protects hasked oneOther
  obtain ⟨-, hgoes⟩ := promotion_protects hasked twoOthers
  obtain ⟨-, value, hvalue, hstored⟩ := hstays (by simp [oneOther]) (by rw [hone]; decide)
  obtain ⟨-, hnone⟩ := hgoes (by simp [twoOthers, Use.named?]) (by simp [twoOthers])
    (by rw [htwo]; decide)
  have hlast : Past.lastStored? (run 2 (askedAgain ++ oneOther)).1 "a" = some 5 := by decide
  rw [hlast] at hstored
  cases hstored
  exact ⟨hasked, hone, hvalue, htwo, hnone⟩

end Cache
end PromptBook

import PromptBook.Proofs.Dictionary.Entries

/-!
# Dictionaries that differ in one name

The entry of a name stands between those of the names before it and those of the names after it.  Two
dictionaries that hold the same under every other name are therefore the same before it and after it.

**Results.**
* `Ordered.split`: a dictionary around one name.
* `Ordered.exists_split`: dictionaries that differ in one name.
* `Ordered.filterMap`: entries that are changed but keep their names.
-/

namespace PromptBook
namespace Dictionary

variable {α β : Type} {d d' : Dictionary α} {name : String}

section Agreeing

/-- Dictionaries in order with the same entries are the same. -/
theorem Ordered.ext_mem (h : Ordered d) (h' : Ordered d')
    (hmem : ∀ entry, entry ∈ d ↔ entry ∈ d') : d = d' := by
  refine h.ext h' fun name => Option.ext fun value => ?_
  rw [h.get?_eq_some_iff, h'.get?_eq_some_iff, hmem]

/-- The entry of a name, if there is one. -/
def own (d : Dictionary α) (name : String) : Dictionary α :=
  ((get? d name).map (name, ·)).toList

theorem Ordered.mem_own_iff (h : Ordered d) {entry : String × α} :
    entry ∈ own d name ↔ entry ∈ d ∧ entry.1 = name := by
  obtain ⟨key, value⟩ := entry
  simp only [own, Option.mem_toList, Option.map_eq_some_iff, h.get?_eq_some_iff, Prod.mk.injEq]
  constructor
  · rintro ⟨value, hmem, rfl, rfl⟩
    exact ⟨hmem, rfl⟩
  · rintro ⟨hmem, rfl⟩
    exact ⟨value, hmem, rfl, rfl⟩

/-- The entry of a name stands between those of the names before it and those of the names after
it. -/
theorem Ordered.split (h : Ordered d) (name : String) :
    d = d.filter (·.1 < name) ++ own d name ++ d.filter (name < ·.1) := by
  have hbefore : ∀ entry ∈ d.filter (·.1 < name), entry.1 < name :=
    fun entry hentry => of_decide_eq_true (List.mem_filter.mp hentry).2
  have hafter : ∀ entry ∈ d.filter (name < ·.1), name < entry.1 :=
    fun entry hentry => of_decide_eq_true (List.mem_filter.mp hentry).2
  have hown : ∀ entry ∈ own d name, entry.1 = name :=
    fun entry hentry => (h.mem_own_iff.mp hentry).2
  have hone : Ordered (own d name) := by
    rw [own]
    cases get? d name with
    | none => exact .nil
    | some value => exact List.pairwise_singleton _ _
  have hparts : Ordered (d.filter (·.1 < name) ++ own d name ++ d.filter (name < ·.1)) := by
    refine List.pairwise_append.mpr
      ⟨List.pairwise_append.mpr ⟨h.filter _, hone, ?_⟩, h.filter _, ?_⟩
    · intro a ha b hb
      rw [hown b hb]
      exact hbefore a ha
    · intro a ha b hb
      rcases List.mem_append.mp ha with ha | ha
      · exact (hbefore a ha).trans (hafter b hb)
      · rw [hown a ha]
        exact hafter b hb
  refine h.ext_mem hparts fun entry => ?_
  simp only [List.mem_append, List.mem_filter, h.mem_own_iff, decide_eq_true_eq]
  have horder := lt_trichotomy entry.1 name
  tauto

/-- Dictionaries that hold the same but under one name differ in the entry of that name alone. -/
theorem Ordered.exists_split (h : Ordered d) (h' : Ordered d')
    (hagree : ∀ entry : String × α, entry.1 ≠ name → (entry ∈ d ↔ entry ∈ d')) :
    ∃ before after, d = before ++ own d name ++ after ∧ d' = before ++ own d' name ++ after := by
  have hbefore : d.filter (·.1 < name) = d'.filter (·.1 < name) := by
    refine Ordered.ext_mem (h.filter _) (h'.filter _) fun entry => ?_
    simp only [List.mem_filter, decide_eq_true_eq]
    exact and_congr_left fun hlt => hagree entry (ne_of_lt hlt)
  have hafter : d.filter (name < ·.1) = d'.filter (name < ·.1) := by
    refine Ordered.ext_mem (h.filter _) (h'.filter _) fun entry => ?_
    simp only [List.mem_filter, decide_eq_true_eq]
    exact and_congr_left fun hlt => hagree entry (ne_of_gt hlt)
  refine ⟨_, _, h.split name, ?_⟩
  rw [hbefore, hafter]
  exact h'.split name

/-- Entries that keep their names stay in order. -/
theorem Ordered.filterMap {f : String × α → Option (String × β)} (h : Ordered d)
    (hf : ∀ entry entry', f entry = some entry' → entry'.1 = entry.1) :
    Ordered (d.filterMap f) := by
  refine List.Pairwise.filterMap f ?_ h
  intro a a' hlt b hb b' hb'
  rw [hf a b hb, hf a' b' hb']
  exact hlt

end Agreeing
end Dictionary
end PromptBook

import PromptBook.Proofs.Dictionary.Filling
import PromptBook.Template.Basic

/-!
# Defaults

A variable may be declared more than once.  The defaults are put in one after the other, each only
where nothing is held yet, so of the declarations of one variable the first that has a default
decides, which need not be the first of them.  A value that was given stays, null included.

**Results.**
* `default?_eq_some_iff`: which default decides.
* `get?_withDefaults`: what is held under a name.
* `missing?_eq_none_iff`: whether a required variable has no value of its own.
* `defaults_fill_gaps`: the defaults and the check side by side.
-/

namespace PromptBook

variable {v : Variable} {vs : List Variable} {values : Values} {name : String} {value : Json}

section Puts

/-- Nothing that a dictionary holds is lost when a value comes in under a name that has none. -/
theorem Dictionary.sublist_putIfAbsent {α : Type} (name : String) (value : α) (d : Dictionary α) :
    d.Sublist (putIfAbsent name value d) := by
  have hput : get? d name = none → d.Sublist (put name value d) := by
    intro hno
    induction d with
    | nil =>
        exact List.nil_sublist _
    | cons entry rest ih =>
        obtain ⟨key, old⟩ := entry
        rw [get?] at hno
        by_cases hkey : key = name
        · rw [if_pos hkey] at hno
          cases hno
        · rw [if_neg hkey] at hno
          rw [put, if_neg hkey]
          split
          · exact List.sublist_cons_self _ _
          · exact (ih hno).cons_cons _
  unfold putIfAbsent
  split
  · exact List.Sublist.refl d
  · rename_i hhas
    exact hput (by simpa [has] using hhas)

end Puts

namespace Variable

/-- The values with the default of a variable, if it has one and no value is there. -/
def fill (values : Values) (v : Variable) : Values :=
  match v.default with
  | some value => values.putIfAbsent v.name value
  | none => values

/-- The default that a declaration gives to a name. -/
def defaultFor? (name : String) (v : Variable) : Option Json :=
  if v.name = name then v.default else none

theorem get?_fill (values : Values) (v : Variable) (name : String) :
    (fill values v).get? name = (values.get? name).or (v.defaultFor? name) := by
  unfold fill defaultFor?
  cases v.default with
  | none => simp
  | some value => exact Dictionary.get?_putIfAbsent v.name value values name

theorem sublist_fill (values : Values) (v : Variable) : values.Sublist (fill values v) := by
  unfold fill
  cases v.default with
  | none => exact List.Sublist.refl values
  | some value => exact Dictionary.sublist_putIfAbsent v.name value values

theorem fill_eq_self (h : v.default.isSome = true → values.has v.name = true) :
    fill values v = values := by
  unfold fill
  cases hdefault : v.default with
  | none => rfl
  | some value =>
      have hhas := h (by rw [hdefault]; rfl)
      exact if_pos hhas

theorem get?_foldl_fill (vs : List Variable) (values : Values) (name : String) :
    (vs.foldl fill values).get? name =
      (values.get? name).or (vs.findSome? (defaultFor? name)) := by
  induction vs generalizing values with
  | nil =>
      simp
  | cons v rest ih =>
      rw [List.foldl_cons, ih, get?_fill, Option.or_assoc, List.findSome?_cons]
      cases v.defaultFor? name <;> rfl

theorem sublist_foldl_fill (vs : List Variable) (values : Values) :
    values.Sublist (vs.foldl fill values) := by
  induction vs generalizing values with
  | nil => exact List.Sublist.refl values
  | cons v rest ih => exact (sublist_fill values v).trans (ih _)

/-- Where every variable with a default has a value, nothing is filled in. -/
theorem foldl_fill_eq_self
    (h : ∀ v ∈ vs, v.default.isSome = true → values.has v.name = true) :
    vs.foldl fill values = values := by
  induction vs with
  | nil =>
      rfl
  | cons v rest ih =>
      obtain ⟨hv, hrest⟩ := List.forall_mem_cons.mp h
      rw [List.foldl_cons, fill_eq_self hv, ih hrest]

end Variable

namespace Template

/-- The default of a variable: that of its first declaration that has one. -/
def default? (t : Template) (name : String) : Option Json :=
  t.declarations.findSome? (Variable.defaultFor? name)

/-- A declaration gives a variable its default, and no declaration of it before that one has any. -/
def FirstDefault (t : Template) (name : String) (value : Json) : Prop :=
  ∃ before v after, t.declarations = before ++ v :: after ∧ v.name = name ∧
    v.default = some value ∧ ∀ u ∈ before, u.name = name → u.default = none

variable {t : Template}

section Defaults

theorem default?_eq_some_iff : t.default? name = some value ↔ t.FirstDefault name value := by
  have hgives : ∀ v : Variable, v.defaultFor? name = some value ↔
      v.name = name ∧ v.default = some value := by
    simp [Variable.defaultFor?]
  have hkeeps : ∀ v : Variable, v.defaultFor? name = none ↔ (v.name = name → v.default = none) := by
    simp [Variable.defaultFor?]
  rw [default?, List.findSome?_eq_some_iff]
  constructor
  · rintro ⟨before, v, after, hdeclarations, hv, hbefore⟩
    obtain ⟨hname, hdefault⟩ := (hgives v).mp hv
    exact ⟨before, v, after, hdeclarations, hname, hdefault,
      fun u hu => (hkeeps u).mp (hbefore u hu)⟩
  · rintro ⟨before, v, after, hdeclarations, hname, hdefault, hbefore⟩
    exact ⟨before, v, after, hdeclarations, (hgives v).mpr ⟨hname, hdefault⟩,
      fun u hu => (hkeeps u).mpr (hbefore u hu)⟩

theorem withDefaults_eq (t : Template) (values : Values) :
    t.withDefaults values = t.declarations.foldl Variable.fill values := rfl

/-- Under a name the value that was given is held, or else the default of the variable. -/
theorem get?_withDefaults (t : Template) (values : Values) (name : String) :
    (t.withDefaults values).get? name = (values.get? name).or (t.default? name) := by
  rw [withDefaults_eq, Variable.get?_foldl_fill]
  rfl

/-- With its defaults filled in, every variable that has one has a value. -/
theorem has_withDefaults (hv : v ∈ t.declarations) (hdefault : v.default.isSome = true)
    (values : Values) : (t.withDefaults values).has v.name = true := by
  have hsome : (t.default? v.name).isSome = true := by
    rw [default?, List.findSome?_isSome_iff]
    exact ⟨v, hv, by simpa [Variable.defaultFor?] using hdefault⟩
  rw [Dictionary.has, get?_withDefaults, Option.isSome_or, hsome, Bool.or_true]

theorem withDefaults_withDefaults (t : Template) (values : Values) :
    t.withDefaults (t.withDefaults values) = t.withDefaults values := by
  rw [withDefaults_eq t (t.withDefaults values)]
  exact Variable.foldl_fill_eq_self fun v hv hdefault => has_withDefaults hv hdefault values

end Defaults

section Check

/-- Nothing is missing if every required variable has a value, whatever defaults there are. -/
theorem missing?_eq_none_iff :
    t.missing? values = none ↔
      ∀ v ∈ t.declarations, v.required = true → ∃ value, values.get? v.name = some value := by
  simp [missing?, Dictionary.has, ← Option.ne_none_iff_exists']

end Check

/--
The values with the defaults of a template hold, under every name, the value that was given, or,
where none was given, the default of the first declaration of that name that has one, and nothing
else.  To fill in the defaults again changes nothing, and no entry of the values is changed or lost.
The check for required variables is passed by the values that have an entry for each of them: a
default does not help.
-/
theorem defaults_fill_gaps (t : Template) (values : Values) :
    (∀ name value, (t.withDefaults values).get? name = some value ↔
        values.get? name = some value ∨
          (values.get? name = none ∧ t.FirstDefault name value)) ∧
      t.withDefaults (t.withDefaults values) = t.withDefaults values ∧
      values.Sublist (t.withDefaults values) ∧
      (t.missing? values = none ↔
        ∀ v ∈ t.declarations, v.required = true → ∃ value, values.get? v.name = some value) := by
  refine ⟨fun name value => ?_, t.withDefaults_withDefaults values,
    Variable.sublist_foldl_fill t.declarations values, missing?_eq_none_iff⟩
  rw [get?_withDefaults, Option.or_eq_some_iff, default?_eq_some_iff]

end Template
end PromptBook

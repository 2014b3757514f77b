import PromptBook.Validation
import Mathlib.Data.List.Nodup

/-!
# What a report says

The messages of a report, read back: a template without errors has a name and is sound, and the
warnings about its parts are one for each text that is missing.

**Results.**
* `Template.isValid_iff`: which templates have no errors.
* `Template.errors_of_sound`: a sound template can only lack a name.
* `Template.warnings_of_referenced`: what is odd about a template whose variables are all used.
-/

namespace PromptBook

theorem Report.passes_strict_iff {r : Report} :
    r.passes true = true ↔ r.isValid = true ∧ r.warnings = [] := by
  simp [passes]

section Parts

variable {p : Part}

/-- The part is of a kind that there is and, if it is media, refers to something. -/
structure Part.Complete (p : Part) : Prop where
  recognized : p.kind.isRecognized = true
  reference : p.kind = .media → ∃ reference, p.reference = some reference ∧
    Text.isBlankText reference = false

/-- The part holds text, but there is none. -/
def Part.lacksText (p : Part) : Bool :=
  (p.kind = .system ∨ p.kind = .user) && Text.isBlankText p.content

theorem Template.partErrors_eq_nil_iff {i : Nat} : partErrors i p = [] ↔ p.Complete := by
  obtain ⟨kind, content, reference⟩ := p
  constructor
  · intro h
    cases kind with
    | system | user =>
        exact ⟨rfl, nofun⟩
    | media =>
        refine ⟨rfl, fun _ => ?_⟩
        cases reference with
        | none => simp [partErrors] at h
        | some reference => simpa [partErrors] using h
    | other word =>
        simp [partErrors] at h
  · rintro ⟨hrecognized, hreference⟩
    cases kind with
    | system | user =>
        rfl
    | media =>
        obtain ⟨reference, rfl, hblank⟩ := hreference rfl
        simp [partErrors, hblank]
    | other word =>
        cases hrecognized

theorem Template.partWarnings_eq {i : Nat} :
    partWarnings i p =
      if p.lacksText then [p.kind.word ++ " part " ++ toString i ++ " has empty content"]
      else [] := by
  obtain ⟨kind, content, reference⟩ := p
  cases kind <;> simp [partWarnings, Part.lacksText]

end Parts

section Declarations

variable {v : Variable} {vs : List Variable} {declared : List String}

/-- The declaration can be used on its own. -/
structure Variable.Complete (v : Variable) : Prop where
  name : Placeholder.isIdentifierText v.name = true
  type : Text.isBlankText v.type = false

theorem Template.variableErrors_eq_nil_iff :
    variableErrors declared v = [] ↔ v.Complete ∧ v.name ∉ declared := by
  have hcomplete : v.Complete ↔
      Placeholder.isIdentifierText v.name = true ∧ Text.isBlankText v.type = false :=
    ⟨fun h => ⟨h.name, h.type⟩, fun h => ⟨h.1, h.2⟩⟩
  simp [variableErrors, hcomplete, and_assoc]

/-- The declarations of a list can be used if each can, and no name comes twice or again. -/
theorem Template.declarationErrors_eq_nil_iff : declarationErrors declared vs = [] ↔
    (∀ v ∈ vs, v.Complete) ∧ (∀ v ∈ vs, v.name ∉ declared) ∧ (vs.map (·.name)).Nodup := by
  induction vs generalizing declared with
  | nil =>
      simp [declarationErrors]
  | cons v rest ih =>
      have hnew : (∀ u ∈ rest, u.name ∉ v.name :: declared) ↔
          (∀ u ∈ rest, u.name ∉ declared) ∧ v.name ∉ rest.map (·.name) := by
        simp only [List.mem_cons, not_or, List.mem_map, not_exists, not_and]
        constructor
        · intro h
          exact ⟨fun u hu => (h u hu).2, fun u hu => (h u hu).1⟩
        · rintro ⟨hold, hv⟩ u hu
          exact ⟨hv u hu, hold u hu⟩
      rw [declarationErrors, List.append_eq_nil_iff, variableErrors_eq_nil_iff, ih, hnew,
        List.forall_mem_cons, List.forall_mem_cons, List.map_cons, List.nodup_cons]
      tauto

end Declarations

namespace Template

variable {t : Template}

/-- There is nothing wrong with the parts and the declarations of the template. -/
structure Sound (t : Template) : Prop where
  nonempty : t.parts ≠ []
  parts : ∀ p ∈ t.parts, p.Complete
  declarations : ∀ v ∈ t.declarations, v.Complete
  nodup : (t.declarations.map (·.name)).Nodup

/-- The errors of a template apart from the one about its name. -/
def shapeErrors (t : Template) : List String :=
  (if t.parts.isEmpty then ["template must have at least one part"] else [])
    ++ (t.parts.mapIdx partErrors).flatten ++ declarationErrors [] t.declarations

theorem validate_errors : t.validate.errors =
    (if Text.isBlankText t.name then ["template name cannot be empty"] else []) ++
      t.shapeErrors := by
  simp [validate, ownErrors, shapeErrors]

theorem shapeErrors_eq_nil_iff : t.shapeErrors = [] ↔ t.Sound := by
  have hparts : (t.parts.mapIdx partErrors).flatten = [] ↔ ∀ p ∈ t.parts, p.Complete := by
    rw [List.flatten_eq_nil_iff]
    constructor
    · intro h p hp
      obtain ⟨i, hi, rfl⟩ := List.getElem_of_mem hp
      exact partErrors_eq_nil_iff.mp (h _ (List.mem_mapIdx.mpr ⟨i, hi, rfl⟩))
    · intro h messages hmessages
      obtain ⟨i, hi, rfl⟩ := List.mem_mapIdx.mp hmessages
      exact partErrors_eq_nil_iff.mpr (h _ (List.getElem_mem hi))
  rw [shapeErrors, List.append_eq_nil_iff, List.append_eq_nil_iff, hparts,
    declarationErrors_eq_nil_iff]
  constructor
  · rintro ⟨⟨hnonempty, hparts⟩, hdeclarations, _, hnodup⟩
    exact ⟨by simpa using hnonempty, hparts, hdeclarations, hnodup⟩
  · rintro ⟨hnonempty, hparts, hdeclarations, hnodup⟩
    exact ⟨⟨by simpa using hnonempty, hparts⟩, hdeclarations, by simp, hnodup⟩

theorem isValid_iff : t.validate.isValid = true ↔ Text.isBlankText t.name = false ∧ t.Sound := by
  rw [Report.isValid, List.isEmpty_iff, validate_errors, List.append_eq_nil_iff,
    shapeErrors_eq_nil_iff]
  simp

theorem errors_of_sound (h : t.Sound) : t.validate.errors =
    if Text.isBlankText t.name then ["template name cannot be empty"] else [] := by
  rw [validate_errors, shapeErrors_eq_nil_iff.mpr h, List.append_nil]

/-- The warnings about parts: one for each text that is missing, with the place of its part. -/
theorem flatten_partWarnings (parts : List Part) : (parts.mapIdx partWarnings).flatten =
    (parts.zipIdx.filter fun (p, _) => p.lacksText).map fun (p, i) =>
      p.kind.word ++ " part " ++ toString i ++ " has empty content" := by
  simp only [List.mapIdx_eq_zipIdx_map, partWarnings_eq]
  induction parts.zipIdx with
  | nil =>
      rfl
  | cons placed rest ih =>
      rw [List.map_cons, List.flatten_cons, ih, List.filter_cons]
      cases h : placed.1.lacksText <;> simp

theorem warnings_of_referenced (h : ∀ v ∈ t.declarations, v.name ∈ t.referenced) :
    t.validate.warnings =
      (t.parts.zipIdx.filter fun (p, _) => p.lacksText).map fun (p, i) =>
        p.kind.word ++ " part " ++ toString i ++ " has empty content" := by
  have hvariables : t.declarations.flatMap (variableWarnings t.referenced) = [] := by
    rw [List.flatMap_eq_nil_iff]
    intro v hv
    simp [variableWarnings, h v hv]
  rw [validate, hvariables, List.append_nil, flatten_partWarnings]

end Template

end PromptBook

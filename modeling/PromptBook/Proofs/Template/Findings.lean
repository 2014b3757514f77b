import PromptBook.Proofs.Template.Defects
import PromptBook.Proofs.Template.References
import Mathlib.Algebra.BigOperators.Group.List.Basic
import Mathlib.Algebra.GroupWithZero.Nat

/-!
# How much a report finds

The validator finds every defect of a template once.  There is an error for each rule that the
template as a whole, one of its parts or one of its declarations breaks, and a warning for each
missing text and each declaration to which no text refers.

**Results.**
* `length_flatten_mapIdx`: how many findings there are about parts, if each part has its own number.
* `length_declarationErrors`: the errors about declarations, each after those before it.
* `validate_counts`: the numbers of errors and of warnings, and which templates pass.
-/

namespace PromptBook

/-- The part is media that refers to nothing. -/
def Part.lacksReference (p : Part) : Bool :=
  p.kind = .media && p.reference.all Text.isBlankText

/-- The number of the cases in which something holds. -/
theorem length_ite_singleton {β : Type} (p : Prop) [Decidable p] (b : β) :
    (if p then [b] else []).length = if p then 1 else 0 := by
  split <;> rfl

section Parts

variable {α β : Type} {f : Nat → α → List β} {p : Part} {i : Nat}

theorem length_flatten_mapIdx (g : α → Nat) (h : ∀ i a, (f i a).length = g a) (l : List α) :
    (l.mapIdx f).flatten.length = (l.map g).sum := by
  induction l generalizing f with
  | nil =>
      rfl
  | cons a rest ih =>
      rw [List.mapIdx_cons, List.flatten_cons, List.length_append, h, ih fun i => h (i + 1),
        List.map_cons, List.sum_cons]

theorem sum_map_ite (p : α → Bool) (l : List α) :
    (l.map fun a => if p a then 1 else 0).sum = l.countP p := by
  induction l with
  | nil =>
      rfl
  | cons a rest ih =>
      rw [List.map_cons, List.sum_cons, ih, List.countP_cons, Nat.add_comm]

theorem length_partErrors : (Template.partErrors i p).length =
    (if !p.kind.isRecognized then 1 else 0) + if p.lacksReference then 1 else 0 := by
  obtain ⟨kind, content, reference⟩ := p
  cases kind with
  | system | user =>
      rfl
  | media =>
      simp [Template.partErrors, Part.lacksReference, PartKind.isRecognized, length_ite_singleton]
  | other word =>
      simp [Template.partErrors, Part.lacksReference, PartKind.isRecognized]

theorem length_partWarnings :
    (Template.partWarnings i p).length = if p.lacksText then 1 else 0 := by
  rw [Template.partWarnings_eq, length_ite_singleton]

end Parts

section Declarations

variable {v : Variable} {vs : List Variable} {declared : List String}

/-- The name of a declaration is that of one before it. -/
def Variable.repeats (vs : List Variable) : Variable × Nat → Bool
  | (v, i) => (vs.take i).any (·.name == v.name)

theorem length_variableErrors : (Template.variableErrors declared v).length =
    (if !Placeholder.isIdentifierText v.name then 1 else 0) +
      (if Text.isBlankText v.type then 1 else 0) + if declared.contains v.name then 1 else 0 := by
  have hname : (if Placeholder.isIdentifierText v.name then []
      else ["variable name \"" ++ v.name ++ "\" is not a valid identifier"]).length =
        if !Placeholder.isIdentifierText v.name then 1 else 0 := by
    cases Placeholder.isIdentifierText v.name <;> rfl
  rw [Template.variableErrors, List.length_append, List.length_append, hname,
    length_ite_singleton, length_ite_singleton]

/-- Among declarations after others, a name may be one of theirs or come twice itself. -/
theorem length_declarationErrors : (Template.declarationErrors declared vs).length =
    vs.countP (!Placeholder.isIdentifierText ·.name) + vs.countP (Text.isBlankText ·.type) +
      vs.zipIdx.countP fun d => declared.contains d.1.name || Variable.repeats vs d := by
  induction vs generalizing declared with
  | nil =>
      rfl
  | cons v rest ih =>
      -- A later name is that of `v`, or it comes twice among those after `v`.
      have hshift : (rest.zipIdx 1).countP
            (fun d => declared.contains d.1.name || Variable.repeats (v :: rest) d) =
          rest.zipIdx.countP
            fun d => (v.name :: declared).contains d.1.name || Variable.repeats rest d := by
        rw [List.zipIdx_succ, List.countP_map]
        refine List.countP_congr fun d _ => ?_
        simp only [Function.comp, Variable.repeats, List.contains_cons, List.take_succ_cons,
          List.any_cons, Bool.or_eq_true, beq_iff_eq]
        rw [@eq_comm _ d.1.name v.name]
        tauto
      rw [Template.declarationErrors, List.length_append, length_variableErrors, ih,
        List.zipIdx_cons, List.countP_cons, List.countP_cons, List.countP_cons, hshift]
      have hfirst : Variable.repeats (v :: rest) (v, 0) = false := rfl
      simp only [hfirst, Bool.or_false]
      omega

end Declarations

namespace Template

section Reports

variable {t : Template}

theorem length_errors (t : Template) : t.validate.errors.length =
    (if Text.isBlankText t.name then 1 else 0) + (if t.parts = [] then 1 else 0) +
      t.parts.countP (!·.kind.isRecognized) + t.parts.countP Part.lacksReference +
      t.declarations.countP (!Placeholder.isIdentifierText ·.name) +
      t.declarations.countP (Text.isBlankText ·.type) +
      t.declarations.zipIdx.countP (Variable.repeats t.declarations) := by
  have hparts : (t.parts.mapIdx partErrors).flatten.length =
      t.parts.countP (!·.kind.isRecognized) + t.parts.countP Part.lacksReference := by
    rw [length_flatten_mapIdx _ fun i p => @length_partErrors p i, List.sum_map_add, sum_map_ite,
      sum_map_ite]
  have hdeclarations : (declarationErrors [] t.declarations).length =
      t.declarations.countP (!Placeholder.isIdentifierText ·.name) +
        t.declarations.countP (Text.isBlankText ·.type) +
        t.declarations.zipIdx.countP (Variable.repeats t.declarations) :=
    length_declarationErrors
  rw [validate, List.length_append, List.length_append, hparts, hdeclarations, ownErrors,
    List.length_append, length_ite_singleton, length_ite_singleton]
  simp only [List.isEmpty_iff, Nat.add_assoc]

theorem length_warnings (t : Template) : t.validate.warnings.length =
    t.parts.countP Part.lacksText + t.declarations.countP (fun v => ¬t.RefersTo v.name) := by
  have hparts : (t.parts.mapIdx partWarnings).flatten.length = t.parts.countP Part.lacksText := by
    rw [length_flatten_mapIdx _ fun i p => @length_partWarnings p i, sum_map_ite]
  have hvariable : ∀ v : Variable, (variableWarnings t.referenced v).length =
      if decide (¬t.RefersTo v.name) then 1 else 0 := by
    intro v
    have hreferenced : t.referenced.contains v.name = true ↔ t.RefersTo v.name :=
      List.contains_iff_mem.trans mem_referenced_iff_refersTo
    simp only [variableWarnings, hreferenced, decide_not, Bool.not_eq_true', decide_eq_false_iff_not]
    split <;> simp [*]
  rw [validate, List.length_append, hparts, List.length_flatMap, List.map_congr_left
    fun v _ => hvariable v, sum_map_ite]

theorem warnings_eq_nil_iff : t.validate.warnings = [] ↔
    (∀ p ∈ t.parts, p.lacksText = false) ∧ ∀ v ∈ t.declarations, t.RefersTo v.name := by
  rw [← List.length_eq_zero_iff, length_warnings, Nat.add_eq_zero_iff, List.countP_eq_zero,
    List.countP_eq_zero]
  simp

end Reports

/--
The numbers of errors and of warnings in a report.  An error is a blank name, the lack of parts, a
part of an unknown kind, media that refer to nothing, a declared name that is no identifier, a blank
type, or a name that is declared before; a warning is a text of the system or of the user that is
missing, or a declaration whose name no text mentions.  A template passes if it has none of the
former, and where checking is strict, none of either.
-/
theorem validate_counts (t : Template) :
    t.validate.errors.length =
        (if Text.isBlankText t.name then 1 else 0) + (if t.parts = [] then 1 else 0) +
          t.parts.countP (!·.kind.isRecognized) + t.parts.countP Part.lacksReference +
          t.declarations.countP (!Placeholder.isIdentifierText ·.name) +
          t.declarations.countP (Text.isBlankText ·.type) +
          t.declarations.zipIdx.countP (Variable.repeats t.declarations) ∧
      t.validate.warnings.length =
        t.parts.countP Part.lacksText + t.declarations.countP (fun v => ¬t.RefersTo v.name) ∧
      (t.validate.passes false = true ↔ Text.isBlankText t.name = false ∧ t.Sound) ∧
      (t.validate.passes true = true ↔ (Text.isBlankText t.name = false ∧ t.Sound) ∧
        (∀ p ∈ t.parts, p.lacksText = false) ∧ ∀ v ∈ t.declarations, t.RefersTo v.name) := by
  have hvalid : t.validate.isValid = true ↔ Text.isBlankText t.name = false ∧ t.Sound := isValid_iff
  refine ⟨length_errors t, length_warnings t, ?_, ?_⟩
  · simpa [Report.passes] using hvalid
  · rw [Report.passes_strict_iff, hvalid, warnings_eq_nil_iff]

end Template

end PromptBook

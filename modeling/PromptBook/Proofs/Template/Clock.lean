import PromptBook.Loader
import PromptBook.Validation

/-!
# Templates and the clock

When a text does not say when its template was written, the clock does.  To read the same text at
another time gives the same template but for what was taken from the clock, or fails in the same way.

**Results.**
* `read_sameReading`, `readAt_sameReading`: a text, and the file at a path.
-/

namespace PromptBook

open Files (Tree)

namespace Template

/-- The same template but for times that are taken from the clock, which shows one time for the
first template and another for the second. -/
structure SameButClock (now now' : Timestamp) (t t' : Template) : Prop where
  content : { t with createdAt := t'.createdAt, updatedAt := t'.updatedAt } = t'
  createdAt : t.createdAt = t'.createdAt ∨ t.createdAt = now ∧ t'.createdAt = now'
  updatedAt : t.updatedAt = t'.updatedAt ∨ t.updatedAt = now ∧ t'.updatedAt = now'

variable {now now' : Timestamp} {t t' : Template}

/-- At one time, the clock makes no difference. -/
theorem SameButClock.eq (h : SameButClock now now t t') : t = t' := by
  have hcreated : t.createdAt = t'.createdAt := by
    rcases h.createdAt with heq | ⟨heq, heq'⟩
    · exact heq
    · rw [heq, heq']
  have hupdated : t.updatedAt = t'.updatedAt := by
    rcases h.updatedAt with heq | ⟨heq, heq'⟩
    · exact heq
    · rw [heq, heq']
  rw [← h.content, ← hcreated, ← hupdated]

theorem SameButClock.name (h : SameButClock now now' t t') : t.name = t'.name := by
  rw [← h.content]

theorem SameButClock.validate (h : SameButClock now now' t t') : t.validate = t'.validate := by
  rw [← h.content]
  rfl

end Template

open Template (SameButClock)

/-- The same template but for the clock, or the same failure. -/
inductive SameReading {ε : Type} (now now' : Timestamp) :
    Except ε Template → Except ε Template → Prop
  | ok {t t' : Template} (h : SameButClock now now' t t') : SameReading now now' (.ok t) (.ok t')
  | error (e : ε) : SameReading now now' (.error e) (.error e)

variable {ε ε' : Type} {now now' : Timestamp}

theorem SameReading.mapError {r r' : Except ε Template} (h : SameReading now now' r r')
    (f : ε → ε') : SameReading now now' (r.mapError f) (r'.mapError f) := by
  cases h with
  | ok h => exact .ok h
  | error e => exact .error (f e)

theorem SameReading.of_ok {t : Template} {r' : Except ε Template}
    (h : SameReading now now' (.ok t) r') : ∃ t', r' = .ok t' ∧ SameButClock now now' t t' := by
  cases h with
  | ok h => exact ⟨_, rfl, h⟩

/-- What comes before a reading does not depend on the clock. -/
theorem SameReading.bind {α : Type} (x : Except ε α) {f f' : α → Except ε Template}
    (h : ∀ a, SameReading now now' (f a) (f' a)) : SameReading now now' (x >>= f) (x >>= f') := by
  cases x with
  | ok a => exact h a
  | error e => exact .error e

variable (now now')

theorem Legacy.read_sameReading (stem : Option String) (cs : List Char) :
    SameReading now now' (Legacy.read now stem cs) (Legacy.read now' stem cs) := by
  refine .bind _ fun sections => ?_
  refine .bind _ fun _ => ?_
  exact .ok ⟨rfl, .inr ⟨rfl, rfl⟩, .inr ⟨rfl, rfl⟩⟩

theorem Structured.template_sameReading (stem : Option String) (d : Structured) :
    SameReading now now' (d.template now stem) (d.template now' stem) := by
  unfold Structured.template
  cases stem.or d.name with
  | none =>
      exact .error _
  | some name =>
      simp only
      split
      · exact .error _
      · refine .ok ⟨rfl, ?_, ?_⟩
        · cases d.createdAt with
          | none => exact .inr ⟨rfl, rfl⟩
          | some time => exact .inl rfl
        · -- A text that says when it was written, but not when it was changed, means the same time.
          cases d.updatedAt with
          | some time => exact .inl rfl
          | none =>
              cases d.createdAt with
              | none => exact .inr ⟨rfl, rfl⟩
              | some time => exact .inl rfl

theorem Structured.read_sameReading (source : String) (stem : Option String) (text : String) :
    SameReading now now' (Structured.read now source stem text)
      (Structured.read now' source stem text) := by
  refine .bind _ fun v => ?_
  split
  · refine .bind _ fun d => ?_
    exact (Structured.template_sameReading now now' stem d).mapError _
  · exact .error _

theorem Source.read_sameReading (source : String) (stem : Option String) (text : String) :
    SameReading now now' (Source.read now source stem text)
      (Source.read now' source stem text) := by
  unfold Source.read
  split
  · exact .error _
  · split
    · exact (Legacy.read_sameReading now now' stem text.toList).mapError _
    · exact Structured.read_sameReading now now' source stem text

theorem Loader.readAt_sameReading (files : Tree) (path : String) :
    SameReading now now' (Loader.readAt now files path) (Loader.readAt now' files path) :=
  .bind _ fun text => Source.read_sameReading now now' path (Path.stem? path) text

end PromptBook

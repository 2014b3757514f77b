import PromptBook.Proofs.Engine.Turns

/-!
# What is sent

A request is prepared before anything is sent, and always in the same way: to render a template
shows what an execution of it would send.  What stands in the way of a request stands in the way of
all three, and is said before a cancellation is noticed.

**Results.**
* `prepare_sentAs`: the time of a request and the way of its answer make no other difference.
* `prepare_eq_error_iff`: what stands in the way of a request, and which of several things is said.
* `sent_execute`, `sent_executeStreaming`: what is sent of a request.
* `sends_what_is_rendered`: the three side by side.
-/

namespace PromptBook

/-- The request as it is sent at some time, for an answer piece by piece or at once. -/
def Request.sentAs (r : Request) (now : Timestamp) (streaming : Bool) : Request :=
  { r with trace := { r.trace with timestamp := now, streaming := streaming } }

/-- The variable is the first, in the order of declaration, that is required and has no value. -/
def Template.FirstMissing (t : Template) (values : Values) (name : String) : Prop :=
  ∃ before v after, t.declarations = before ++ v :: after ∧ v.name = name ∧
    v.required = true ∧ values.has v.name = false ∧
    ∀ u ∈ before, u.required = true → values.has u.name = true

theorem Template.missing?_eq_some_iff {t : Template} {values : Values} {name : String} :
    t.missing? values = some name ↔ t.FirstMissing values name := by
  rw [missing?, Option.map_eq_some_iff]
  constructor
  · rintro ⟨v, hfind, rfl⟩
    obtain ⟨hv, before, after, hdeclarations, hbefore⟩ := List.find?_eq_some_iff_append.mp hfind
    refine ⟨before, v, after, hdeclarations, rfl, ?_, ?_, ?_⟩
    · simp_all
    · simp_all
    · intro u hu hrequired
      simpa [hrequired] using hbefore u hu
  · rintro ⟨before, v, after, hdeclarations, rfl, hrequired, hno, hbefore⟩
    refine ⟨v, List.find?_eq_some_iff_append.mpr ⟨?_, before, after, hdeclarations, ?_⟩, rfl⟩
    · simp [hrequired, hno]
    · intro u hu
      cases hu' : u.required with
      | false => simp
      | true => simp [hbefore u hu hu']

namespace Engine

variable {e : Engine} {now now' : Timestamp} {t : Template} {values : Values} {o : Options}
variable {streaming streaming' cancelled : Bool} {r : Request} {error : ExecutionError}

section Preparing

theorem buildRequest_sentAs (e : Engine) (now now' : Timestamp) (t : Template) (values : Values)
    (o : Options) (streaming streaming' : Bool) :
    e.buildRequest now' t values o streaming' =
      (e.buildRequest now t values o streaming).map fun r => r.sentAs now' streaming' := by
  unfold buildRequest
  split
  · rfl
  · split <;> rfl

/-- At another time, or for an answer of the other kind, the same request is prepared. -/
theorem prepare_sentAs (e : Engine) (now now' : Timestamp) (t : Template) (values : Values)
    (o : Options) (streaming streaming' : Bool) :
    e.prepare now' t values o streaming' =
      (e.prepare now t values o streaming).map fun r => r.sentAs now' streaming' := by
  unfold prepare
  split
  · rfl
  · exact buildRequest_sentAs e now now' t _ o streaming streaming'

/-- A request says when it was prepared, and for what kind of answer. -/
theorem sentAs_of_prepare (h : e.prepare now t values o streaming = .ok r) :
    r.sentAs now streaming = r := by
  have hsame := prepare_sentAs e now now t values o streaming streaming
  rw [h] at hsame
  exact (Except.ok.inj hsame).symm

end Preparing

section Refusing

/-- A required variable has no value, and it matters. -/
def LacksValue (e : Engine) (t : Template) (values : Values) (name : String) : Prop :=
  e.checksVariables = true ∧ t.FirstMissing values name

/-- Nobody names a model. -/
def LacksModel (e : Engine) (t : Template) (o : Options) : Prop :=
  o.model = none ∧ t.model = none ∧ e.defaultModel = none

/-- No part says anything, with the defaults in the place of values. -/
def LacksContent (t : Template) (values : Values) : Prop :=
  ∀ p ∈ t.parts, ∀ u, ¬p.Says (t.withDefaults values) u

/-- What stands in the way of a request.  Of several things the first is said: a value, then the
model, then the content. -/
inductive Refuses (e : Engine) (t : Template) (values : Values) (o : Options) :
    ExecutionError → Prop
  | value {name : String} (h : e.LacksValue t values name) :
      Refuses e t values o (.prompt (.missingVariable t.name name))
  | model (hvalues : ∀ name, ¬e.LacksValue t values name) (h : e.LacksModel t o) :
      Refuses e t values o (.noModel t.name)
  | content (hvalues : ∀ name, ¬e.LacksValue t values name) (hmodel : ¬e.LacksModel t o)
      (h : LacksContent t values) :
      Refuses e t values o (.emptyRequest t.name)

theorem lacksModel_iff : e.LacksModel t o ↔ (o.model.or t.model).or e.defaultModel = none := by
  simp [LacksModel, Option.or_eq_none_iff, and_assoc]

theorem silent_iff :
    utterances t values = [] ↔ ∀ p ∈ t.parts, ∀ u, ¬p.Says values u := by
  have hpart : ∀ p : Part, p.utterance? values = none ↔ ∀ u, ¬p.Says values u := by
    simp [Option.eq_none_iff_forall_ne_some, Part.utterance?_eq_some_iff]
  simp [utterances, List.filterMap_eq_nil_iff, hpart]

theorem buildRequest_of_lacksModel (h : e.LacksModel t o) :
    e.buildRequest now t values o streaming = .error (.noModel t.name) := by
  rw [buildRequest, lacksModel_iff.mp h]

theorem prepare_of_lacksValue {name : String} (h : e.LacksValue t values name) :
    e.prepare now t values o streaming = .error (.prompt (.missingVariable t.name name)) := by
  obtain ⟨hchecks, hmissing⟩ := h
  rw [prepare, if_pos hchecks, Template.missing?_eq_some_iff.mpr hmissing]

/-- With all values that matter, the request is built with defaults in the place of the others. -/
theorem prepare_of_complete (h : ∀ name, ¬e.LacksValue t values name) :
    e.prepare now t values o streaming =
      e.buildRequest now t (t.withDefaults values) o streaming := by
  have hnone : (if e.checksVariables then t.missing? values else none) = none := by
    split
    · rename_i hchecks
      refine Option.eq_none_iff_forall_ne_some.mpr fun name hname => ?_
      exact h name ⟨hchecks, Template.missing?_eq_some_iff.mp hname⟩
    · rfl
  rw [prepare, hnone]

theorem prepare_of_refuses (h : e.Refuses t values o error) :
    e.prepare now t values o streaming = .error error := by
  cases h with
  | value h =>
      exact prepare_of_lacksValue h
  | model hvalues h =>
      rw [prepare_of_complete hvalues]
      exact buildRequest_of_lacksModel h
  | content hvalues hmodel h =>
      obtain ⟨model, hmodel⟩ := Option.ne_none_iff_exists'.mp (mt lacksModel_iff.mpr hmodel)
      rw [prepare_of_complete hvalues]
      exact buildRequest_of_silent hmodel (silent_iff.mpr h) now streaming

/-- If nothing stands in the way, there is a request. -/
theorem exists_prepare_of_not_refuses (h : ∀ error, ¬e.Refuses t values o error)
    (now : Timestamp) (streaming : Bool) :
    ∃ r, e.prepare now t values o streaming = .ok r := by
  have hvalues : ∀ name, ¬e.LacksValue t values name := fun _ hvalue => h _ (.value hvalue)
  have hmodel : ¬e.LacksModel t o := fun hmodel => h _ (.model hvalues hmodel)
  have hcontent : ¬LacksContent t values := fun hcontent => h _ (.content hvalues hmodel hcontent)
  obtain ⟨model, hmodel⟩ := Option.ne_none_iff_exists'.mp (mt lacksModel_iff.mpr hmodel)
  rw [prepare_of_complete hvalues]
  exact exists_buildRequest hmodel (mt silent_iff.mp hcontent) now streaming

/-- What stands in the way of a request, at any time and for any kind of answer. -/
theorem prepare_eq_error_iff :
    e.prepare now t values o streaming = .error error ↔ e.Refuses t values o error := by
  constructor
  · intro hprepare
    by_contra hnot
    have hnone : ∀ other, ¬e.Refuses t values o other := by
      intro other hother
      rw [prepare_of_refuses hother, Except.error.injEq] at hprepare
      exact hnot (hprepare ▸ hother)
    obtain ⟨r, hr⟩ := exists_prepare_of_not_refuses hnone now streaming
    rw [hprepare] at hr
    cases hr
  · exact prepare_of_refuses

end Refusing

section Sending

theorem execute_of_refused (h : e.prepare now t values o false = .error error)
    (cancelled : Bool) : e.execute now cancelled t values o = ⟨[], [], .error error⟩ := by
  rw [execute, h]

theorem executeStreaming_of_refused (h : e.prepare now t values o true = .error error)
    (cancelled : Bool) (handler : Handler) :
    e.executeStreaming now cancelled t values o handler = ⟨[], [], .error error⟩ := by
  rw [executeStreaming, h]

theorem execute_of_cancelled (h : e.prepare now t values o false = .ok r) :
    e.execute now true t values o = ⟨[], [], .error (.cancelled t.name)⟩ := by
  rw [execute, h]
  rfl

theorem executeStreaming_of_cancelled (h : e.prepare now t values o true = .ok r)
    (handler : Handler) :
    e.executeStreaming now true t values o handler = ⟨[], [], .error (.cancelled t.name)⟩ := by
  rw [executeStreaming, h]
  rfl

/-- A request that was prepared is sent once, whatever becomes of it. -/
theorem sent_execute (h : e.prepare now t values o false = .ok r) :
    (e.execute now false t values o).sent = [r] := by
  rw [execute, h]
  rfl

theorem sent_executeStreaming (h : e.prepare now t values o true = .ok r) (handler : Handler) :
    (e.executeStreaming now false t values o handler).sent = [r] := by
  rw [executeStreaming, h]
  cases hreply : e.backend.stream r <;> simp [hreply]

/--
A template is rendered, executed and executed piece by piece, each at a time of its own and the
latter two with the exchange cancelled before or not.  If a request comes of it, both executions
send just this request, but for the time and the kind of the answer, and send nothing if they are
cancelled.  If none does, they send nothing and fail as the rendering does, cancelled or not; and
the failure names the first thing that stands in the way.
-/
theorem sends_what_is_rendered (e : Engine) (t : Template) (values : Values) (o : Options)
    (handler : Handler) (cancelled : Bool) (now now₁ now₂ : Timestamp) :
    let rendered := e.render now t values o
    let complete := e.execute now₁ cancelled t values o
    let piecewise := e.executeStreaming now₂ cancelled t values o handler
    (∀ r, rendered = .ok r →
        r.trace.streaming = false ∧
        complete.sent = (if cancelled then [] else [r.sentAs now₁ false]) ∧
        piecewise.sent = (if cancelled then [] else [r.sentAs now₂ true]) ∧
        (cancelled = true → complete.result = .error (.cancelled t.name) ∧
          piecewise.result = .error (.cancelled t.name))) ∧
      (∀ error, rendered = .error error →
        complete.sent = [] ∧ complete.result = .error error ∧
        piecewise.sent = [] ∧ piecewise.result = .error error) ∧
      (∀ error, rendered = .error error ↔ e.Refuses t values o error) := by
  intro rendered complete piecewise
  refine ⟨?_, ?_, fun error => prepare_eq_error_iff⟩
  · intro r hrendered
    have hcomplete : e.prepare now₁ t values o false = .ok (r.sentAs now₁ false) := by
      rw [prepare_sentAs e now now₁ t values o false false]
      exact congrArg (Except.map _) hrendered
    have hpiecewise : e.prepare now₂ t values o true = .ok (r.sentAs now₂ true) := by
      rw [prepare_sentAs e now now₂ t values o false true]
      exact congrArg (Except.map _) hrendered
    have hstreaming : r.trace.streaming = false := by
      rw [← sentAs_of_prepare hrendered]
      rfl
    cases cancelled with
    | true =>
        have hnothing : complete = ⟨[], [], .error (.cancelled t.name)⟩ :=
          execute_of_cancelled hcomplete
        have hnothing' : piecewise = ⟨[], [], .error (.cancelled t.name)⟩ :=
          executeStreaming_of_cancelled hpiecewise handler
        rw [hnothing, hnothing']
        exact ⟨hstreaming, rfl, rfl, fun _ => ⟨rfl, rfl⟩⟩
    | false =>
        refine ⟨hstreaming, sent_execute hcomplete, sent_executeStreaming hpiecewise handler, ?_⟩
        rintro ⟨⟩
  · intro error hrendered
    have hrefuses : e.Refuses t values o error := prepare_eq_error_iff.mp hrendered
    have hnothing : complete = ⟨[], [], .error error⟩ :=
      execute_of_refused (prepare_of_refuses hrefuses) cancelled
    have hnothing' : piecewise = ⟨[], [], .error error⟩ :=
      executeStreaming_of_refused (prepare_of_refuses hrefuses) cancelled handler
    rw [hnothing, hnothing']
    exact ⟨rfl, rfl, rfl, rfl⟩

end Sending

section Forms

/-- A field of a form. -/
def field : String := "\x7b\x7bname\x7d\x7d"

/-- A form with one field, which asks for more than it says. -/
def form : Template :=
  { Template.ofParts "form" [.user field] none with
    declarations := [⟨"age", "number", true, none, ""⟩, ⟨"name", "string", true, none, ""⟩] }

/-- What is written into the form. -/
def entries : Values :=
  [("age", .bool true), ("name", .string "Ada")]

/-- Takes all pieces. -/
def patient : Handler :=
  fun _ _ => ⟨false, none⟩

theorem sends_what_is_rendered_form :
    let e : Engine := ⟨.stalling, true, none⟩
    let r : Request := .ofText "form" "Ada"
    (e.render .epoch form entries ⟨some "m", .empty⟩ = .ok r ∧
        (e.execute .epoch false form entries ⟨some "m", .empty⟩).sent = [r] ∧
        (e.executeStreaming .epoch false form entries ⟨some "m", .empty⟩ patient).sent =
          [r.sentAs .epoch true]) ∧
      e.render .epoch form [] ⟨none, .empty⟩ =
        .error (.prompt (.missingVariable "form" "age")) ∧
      (e.execute .epoch true form [] ⟨none, .empty⟩).sent = [] ∧
      (e.execute .epoch true form [] ⟨none, .empty⟩).result =
        .error (.prompt (.missingVariable "form" "age")) := by
  intro e r
  have hpieces : Placeholder.pieces field.toList = [.token "name".toList] := by
    cbv
  have hfield : Substitution.substitute entries field = "Ada" := by
    rw [Substitution.substitute, hpieces]
    decide
  have hblank : Text.isBlankText "Ada" = false := by
    decide
  have hsaid : utterances form (form.withDefaults entries) = [(.user, .text "Ada")] := by
    have hdefaults : form.withDefaults entries = entries := rfl
    rw [hdefaults]
    simp [utterances, form, Template.ofParts, Part.utterance?, Part.utterance?.spoken, Part.user,
      hfield, hblank]
  have hfilled : form.missing? entries = none := by
    decide
  have hempty : form.missing? [] = some "age" := by
    decide
  have hrendered : e.render .epoch form entries ⟨some "m", .empty⟩ = .ok r := by
    rw [render, prepare, if_pos rfl, hfilled]
    simp only
    rw [buildRequest, hsaid]
    rfl
  have hrefused : e.render .epoch form [] ⟨none, .empty⟩ =
      .error (.prompt (.missingVariable "form" "age")) := by
    rw [render, prepare, if_pos rfl, hempty]
    rfl
  obtain ⟨hsends, _⟩ := sends_what_is_rendered e form entries ⟨some "m", .empty⟩ patient false
    .epoch .epoch .epoch
  obtain ⟨_, hcomplete, hpiecewise, _⟩ := hsends r hrendered
  obtain ⟨_, hfails, _⟩ := sends_what_is_rendered e form [] ⟨none, .empty⟩ patient true
    .epoch .epoch .epoch
  obtain ⟨hnothing, hresult, _⟩ := hfails _ hrefused
  exact ⟨⟨hrendered, hcomplete, hpiecewise⟩, hrefused, hnothing, hresult⟩

end Forms

end Engine
end PromptBook

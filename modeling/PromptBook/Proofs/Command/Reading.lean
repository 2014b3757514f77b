import PromptBook.Command.Arguments
import Mathlib.Logic.Basic

/-!
# Arguments that ask for a template

To render and to execute take the same options, but for the one that asks for an answer piece by
piece.  So arguments without that one are read alike after the names of the two commands, or are
refused alike.  The two are read side by side, the execution with a switch turned on ahead.

A name, texts for variables and a model can be given whatever they look like: the texts and the
model after an equals sign, the name after two hyphens alone.

**Results.**
* `Reading.step_cases`: what the next argument can be.
* `Reading.step_execute`: one argument after the names of the two commands.
* `ofArguments_execute`: a whole command line.
* `ofArguments_naming`: a name, texts for variables and a model.
-/

namespace PromptBook

namespace Command

variable {g g' : Given} {r r' : Reading} {more : List Switch} {argument : String}

section Forms

/-- A hyphened argument without a value is its name after two hyphens. -/
theorem toList_of_named {name : String} (h : Form.of argument = .named name none) :
    argument.toList = '-' :: '-' :: name.toList := by
  unfold Form.of at h
  split at h
  · cases h
  · rename_i rest hargument
    split at h
    · cases h
    · cases h
      rw [hargument, String.toList_ofList]
  all_goals cases h

theorem form_eq_separator_iff : Form.of argument = .separator ↔ argument = "--" := by
  constructor
  · intro h
    unfold Form.of at h
    split at h
    · rename_i hargument
      exact String.toList_inj.mp hargument
    · split at h <;> cases h
    all_goals cases h
  · rintro rfl
    rfl

end Forms

section Steps

theorem exists_of_bind_eq_ok {α β : Type} {x : Except Misuse α} {f : α → Except Misuse β} {b : β}
    (h : (do let a ← x; f a) = .ok b) : ∃ a, x = .ok a ∧ f a = .ok b := by
  cases x with
  | error e => cases h
  | ok a => exact ⟨a, rfl, h⟩

theorem Given.switches_of_take {s : Setting} {text : String} (h : g.take s text = .ok g') :
    g'.switches = g.switches := by
  match s with
  | .variable =>
      obtain ⟨_, _, hg⟩ := exists_of_bind_eq_ok h
      cases hg
      rfl
  | .root | .config | .model =>
      simp only [take] at h
      split at h
      · cases h
      · cases h
        rfl

theorem Reading.switches_of_settle (h : r.settle = .ok g) : g.switches = r.given.switches := by
  obtain ⟨given, waiting, operandsOnly⟩ := r
  rcases waiting with _ | ⟨s, _ | text⟩
  · cases h
    rfl
  · cases h
  · exact Given.switches_of_take h

/-- Going on with an option that takes a value turns nothing on. -/
theorem Reading.frame_of_setting {s : Setting} {value : Option String}
    (h : r.setting s value = .ok r') :
    r'.operandsOnly = r.operandsOnly ∧ r'.given.switches = r.given.switches := by
  obtain ⟨g, hsettle, hrest⟩ := exists_of_bind_eq_ok h
  rw [← switches_of_settle hsettle]
  cases value with
  | none =>
      cases hrest
      exact ⟨rfl, rfl⟩
  | some text =>
      obtain ⟨g', htake, hr⟩ := exists_of_bind_eq_ok hrest
      cases hr
      exact ⟨rfl, Given.switches_of_take htake⟩

/-- Going on with a switch turns it on. -/
theorem Reading.frame_of_switch {s : Switch} (h : r.switch s = .ok r') :
    r'.operandsOnly = r.operandsOnly ∧ r'.given.switches = s :: r.given.switches := by
  obtain ⟨g, hsettle, hrest⟩ := exists_of_bind_eq_ok h
  obtain ⟨g', hturn, hr⟩ := exists_of_bind_eq_ok hrest
  cases hr
  refine ⟨rfl, ?_⟩
  rw [← switches_of_settle hsettle]
  unfold Given.turnOn at hturn
  split at hturn
  · cases hturn
  · cases hturn
    rfl

/-- Going on with an operand turns nothing on. -/
theorem Reading.frame_of_operand {verb : Option Verb} (h : r.operand verb argument = .ok r') :
    r'.operandsOnly = r.operandsOnly ∧ r'.given.switches = r.given.switches := by
  unfold operand at h
  split at h
  · split at h
    · cases h
    · cases h
      exact ⟨rfl, rfl⟩
  · split at h
    · obtain ⟨g, hsettle, hr⟩ := exists_of_bind_eq_ok h
      cases hr
      refine ⟨rfl, ?_⟩
      show g.switches = _
      exact switches_of_settle hsettle
    · cases h

/-- What the next argument can be: two hyphens that end the options, an operand, or an option that
the command has. -/
theorem Reading.step_cases {verb : Option Verb} (h : r.step verb argument = .ok r') :
    (argument = "--" ∧ r' = { r with operandsOnly := true }) ∨
      (argument = "--" → r.operandsOnly = true) ∧
        (r.operand verb argument = .ok r' ∨ (∃ s value, r.setting s value = .ok r') ∨
          ∃ s ∈ (switches verb).map Prod.snd, r.switch s = .ok r') := by
  unfold step at h
  split at h
  · rename_i honly
    exact .inr ⟨fun _ => honly, .inl h⟩
  · have hother : Form.of argument ≠ .separator → argument = "--" → r.operandsOnly = true :=
      fun hform hargument => absurd (form_eq_separator_iff.mpr hargument) hform
    split at h
    · rename_i hform
      cases h
      exact .inl ⟨form_eq_separator_iff.mp hform, rfl⟩
    · rename_i hform
      exact .inr ⟨hother (by simp [hform]), .inl h⟩
    · rename_i hform
      split at h
      · exact .inr ⟨hother (by simp [hform]), .inr (.inl ⟨_, _, h⟩)⟩
      · cases h
    · rename_i hform
      split at h
      · exact .inr ⟨hother (by simp [hform]), .inr (.inl ⟨_, _, h⟩)⟩
      · rename_i hswitch
        obtain ⟨_, _, hentry, _⟩ := List.lookup_eq_some_iff.mp hswitch
        exact .inr ⟨hother (by simp [hform]), .inr (.inr ⟨_, by simp [hentry], h⟩)⟩
      · cases h

/-- An argument turns on no switch but those of the command. -/
theorem Reading.mem_switches_of_step {verb : Option Verb} {s : Switch}
    (h : r.step verb argument = .ok r') (hs : s ∈ r'.given.switches) :
    s ∈ r.given.switches ∨ s ∈ (switches verb).map Prod.snd := by
  rcases step_cases h with ⟨_, rfl⟩ | ⟨_, hoperand | ⟨_, _, hsetting⟩ | ⟨s', hmem, hswitch⟩⟩
  · exact .inl hs
  · exact .inl ((frame_of_operand hoperand).2 ▸ hs)
  · exact .inl ((frame_of_setting hsetting).2 ▸ hs)
  · rw [(frame_of_switch hswitch).2] at hs
    rcases List.mem_cons.mp hs with rfl | hbefore
    · exact .inr hmem
    · exact .inl hbefore

theorem Reading.mem_switches_of_foldlM_step {verb : Option Verb} {s : Switch}
    {arguments : List String} (h : arguments.foldlM (step verb) r = .ok r')
    (hs : s ∈ r'.given.switches) : s ∈ r.given.switches ∨ s ∈ (switches verb).map Prod.snd := by
  induction arguments generalizing r with
  | nil =>
      cases h
      exact .inl hs
  | cons argument rest ih =>
      rw [List.foldlM_cons] at h
      obtain ⟨next, hstep, hrest⟩ := exists_of_bind_eq_ok h
      rcases ih hrest with hnext | hverb
      · exact mem_switches_of_step hstep hnext
      · exact .inr hverb

/-- Only two hyphens alone end the options. -/
theorem Reading.operandsOnly_of_step {verb : Option Verb} (h : r.step verb argument = .ok r') :
    r'.operandsOnly = (r.operandsOnly || argument == "--") := by
  rcases step_cases h with ⟨rfl, rfl⟩ | ⟨honly, hcases⟩
  · simp
  · have hkept : r'.operandsOnly = r.operandsOnly := by
      rcases hcases with hoperand | ⟨_, _, hsetting⟩ | ⟨_, _, hswitch⟩
      · exact (frame_of_operand hoperand).1
      · exact (frame_of_setting hsetting).1
      · exact (frame_of_switch hswitch).1
    rw [hkept]
    by_cases hargument : argument = "--"
    · simp [honly hargument]
    · simp [hargument]

end Steps

section Pieces

/-- The arguments do not ask for an answer piece by piece.  After two hyphens alone none does. -/
def Unswitched (arguments : List String) : Prop :=
  "--stream" ∉ arguments.takeWhile (· ≠ "--")

instance (arguments : List String) : Decidable (Unswitched arguments) :=
  inferInstanceAs (Decidable (¬_))

theorem unswitched_cons {arguments : List String} (hargument : argument ≠ "--") :
    Unswitched (argument :: arguments) ↔ argument ≠ "--stream" ∧ Unswitched arguments := by
  simp [Unswitched, hargument, eq_comm]

/-- If what is still to be read does not ask for pieces, it does not after one argument more. -/
theorem Reading.unswitched_of_step {verb : Option Verb} {rest : List String}
    (h : r.step verb argument = .ok r')
    (hr : r.operandsOnly = false → Unswitched (argument :: rest))
    (honly : r'.operandsOnly = false) : Unswitched rest := by
  rw [operandsOnly_of_step h, Bool.or_eq_false_iff, beq_eq_false_iff_ne] at honly
  exact ((unswitched_cons honly.2).mp (hr honly.1)).2

/-- To render takes no switch for an answer piece by piece. -/
theorem Reading.step_stream (honly : r.operandsOnly = false) :
    r.step (some .render) "--stream" = .error .unreadable := by
  have hform : Form.of "--stream" = .named "stream" none := rfl
  rw [step, honly, hform]
  rfl

/-- Arguments that ask for pieces cannot be read after the name of a rendering. -/
theorem Reading.foldlM_step_of_switched {arguments : List String} (honly : r.operandsOnly = false)
    (h : ¬Unswitched arguments) : ∃ m, arguments.foldlM (step (some .render)) r = .error m := by
  induction arguments generalizing r with
  | nil => exact absurd List.not_mem_nil h
  | cons argument rest ih =>
      have hargument : argument ≠ "--" := by
        rintro rfl
        exact h (by simp [Unswitched])
      rw [List.foldlM_cons]
      cases hstep : r.step (some .render) argument with
      | error m => exact ⟨m, rfl⟩
      | ok r' =>
          have hstream : argument ≠ "--stream" := by
            rintro rfl
            rw [step_stream honly] at hstep
            cases hstep
          have honly' : r'.operandsOnly = false := by
            simp [operandsOnly_of_step hstep, honly, hargument]
          exact ih honly' fun hrest => h ((unswitched_cons hargument).mpr ⟨hstream, hrest⟩)

end Pieces

section Ahead

/-- What was given, with more switches turned on ahead of the others. -/
def Given.ahead (more : List Switch) (g : Given) : Given :=
  { g with switches := g.switches ++ more }

/-- The reading with more switches turned on ahead of the others. -/
def Reading.ahead (more : List Switch) (r : Reading) : Reading :=
  { r with given := r.given.ahead more }

theorem Given.take_ahead (s : Setting) (text : String) :
    (g.ahead more).take s text = (g.take s text).map (Given.ahead more) := by
  match s with
  | .variable =>
      simp only [take]
      cases assignment text <;> rfl
  | .root | .config | .model =>
      simp only [take, apply_ite (Except.map (Given.ahead more))]
      rfl

theorem Given.turnOn_ahead {s : Switch} (h : s ∉ more) :
    (g.ahead more).turnOn s = (g.turnOn s).map (Given.ahead more) := by
  have hcontains : (g.switches ++ more).contains s = g.switches.contains s := by
    simp [h]
  simp only [turnOn, ahead, hcontains, apply_ite (Except.map (Given.ahead more))]
  rfl

theorem Reading.settle_ahead : (r.ahead more).settle = r.settle.map (Given.ahead more) := by
  obtain ⟨given, waiting, operandsOnly⟩ := r
  rcases waiting with _ | ⟨s, _ | text⟩
  · rfl
  · rfl
  · exact Given.take_ahead s text

theorem Reading.setting_ahead (s : Setting) (value : Option String) :
    (r.ahead more).setting s value = (r.setting s value).map (Reading.ahead more) := by
  simp only [setting, settle_ahead]
  cases r.settle with
  | error e => rfl
  | ok g =>
      cases value with
      | none => rfl
      | some text =>
          simp only [Except.map, bind, Except.bind, Given.take_ahead]
          cases g.take s text <;> rfl

theorem Reading.switch_ahead {s : Switch} (h : s ∉ more) :
    (r.ahead more).switch s = (r.switch s).map (Reading.ahead more) := by
  simp only [switch, settle_ahead]
  cases r.settle with
  | error e => rfl
  | ok g =>
      simp only [Except.map, bind, Except.bind, Given.turnOn_ahead h]
      cases g.turnOn s <;> rfl

theorem Reading.operand_ahead (verb : Option Verb) (argument : String) :
    (r.ahead more).operand verb argument = (r.operand verb argument).map (Reading.ahead more) := by
  have hname : (r.ahead more).given.name = r.given.name := rfl
  have hoperands : (r.ahead more).operandsOnly = r.operandsOnly := rfl
  have hwaiting : (r.ahead more).waiting = r.waiting := rfl
  simp only [operand, hname, hoperands, hwaiting, settle_ahead]
  split
  · by_cases honly : r.operandsOnly = true
    · simp only [if_pos honly]
      rfl
    · simp only [if_neg honly]
      rfl
  · by_cases hfree : (verb.any Verb.invokes && r.given.name.isNone) = true
    · simp only [if_pos hfree]
      cases r.settle <;> rfl
    · simp only [if_neg hfree]
      rfl

theorem lookup_switches_execute {name : String} (h : name ≠ "stream") :
    (switches (some .execute)).lookup name = (switches (some .render)).lookup name := by
  have hstream : (name == "stream") = false := beq_false_of_ne h
  simp [switches, List.lookup_cons, hstream]

/-- One argument is read the same after the names of the two commands, unless it is the switch that
only one of them has. -/
theorem Reading.step_execute (hmore : .logFile ∉ more)
    (h : r.operandsOnly = false → argument ≠ "--stream") :
    (r.ahead more).step (some .execute) argument =
      (r.step (some .render) argument).map (Reading.ahead more) := by
  have hoperands : (r.ahead more).operandsOnly = r.operandsOnly := rfl
  unfold step
  rw [hoperands]
  by_cases honly : r.operandsOnly = true
  · simp only [honly, if_true]
    exact operand_ahead (some .execute) argument
  simp only [honly, Bool.false_eq_true, if_false]
  cases hform : Form.of argument with
  | separator => rfl
  | operand => exact operand_ahead (some .execute) argument
  | short c value =>
      have hsame : shortSettings (some .execute) = shortSettings (some .render) := rfl
      simp only [hsame]
      cases (shortSettings (some .render)).lookup c with
      | some s => exact setting_ahead s value
      | none => rfl
  | named name value =>
      have hsame : settings (some .execute) = settings (some .render) := rfl
      simp only [hsame]
      cases (settings (some .render)).lookup name with
      | some s => exact setting_ahead s value
      | none =>
          cases value with
          | some text =>
              -- No switch takes a value, so it does not matter which there are.
              cases (switches (some .execute)).lookup name <;>
                cases (switches (some .render)).lookup name <;> rfl
          | none =>
              have hname : name ≠ "stream" := by
                rintro rfl
                exact h (by simpa using honly) (String.toList_inj.mp (toList_of_named hform))
              simp only [lookup_switches_execute hname]
              cases hswitch : (switches (some .render)).lookup name with
              | none => rfl
              | some s =>
                  obtain ⟨_, _, hentry, _⟩ := List.lookup_eq_some_iff.mp hswitch
                  have hmem : (name, s) ∈ switches (some .render) := by simp [hentry]
                  obtain rfl : s = .logFile := congrArg Prod.snd (List.mem_singleton.mp hmem)
                  exact switch_ahead hmore

theorem Reading.foldlM_step_execute (hmore : .logFile ∉ more) {arguments : List String}
    (h : r.operandsOnly = false → Unswitched arguments) :
    arguments.foldlM (step (some .execute)) (r.ahead more) =
      (arguments.foldlM (step (some .render)) r).map (Reading.ahead more) := by
  induction arguments generalizing r with
  | nil => rfl
  | cons argument rest ih =>
      have hplain : r.operandsOnly = false → argument ≠ "--stream" := by
        rintro honly rfl
        exact ((unswitched_cons (by decide)).mp (h honly)).1 rfl
      rw [List.foldlM_cons, List.foldlM_cons, step_execute hmore hplain]
      cases hstep : r.step (some .render) argument with
      | error e => rfl
      | ok r' => exact ih (unswitched_of_step hstep h)

end Ahead

section Commands

/-- What was given after the name of a command. -/
def afterVerb (verb : Verb) (start : Reading) (rest : List String) : Except Misuse Given := do
  (← rest.foldlM (Reading.step (some verb)) start).settle

theorem afterVerb_execute (hmore : .logFile ∉ more) {rest : List String}
    (h : r.operandsOnly = false → Unswitched rest) :
    afterVerb .execute (r.ahead more) rest = (afterVerb .render r rest).map (Given.ahead more) := by
  unfold afterVerb
  rw [Reading.foldlM_step_execute hmore h]
  cases rest.foldlM (Reading.step (some .render)) r with
  | error e => rfl
  | ok r => exact Reading.settle_ahead

/-- To render takes no switch that asks for an answer piece by piece. -/
theorem stream_not_mem_afterVerb {rest : List String} (h : afterVerb .render .start rest = .ok g) :
    Switch.stream ∉ g.switches := by
  obtain ⟨r, hread, hsettle⟩ := exists_of_bind_eq_ok h
  rw [Reading.switches_of_settle hsettle]
  intro hmem
  rcases Reading.mem_switches_of_foldlM_step hread hmem with hstart | hverb
  · cases hstart
  · simp [switches] at hverb

/-- The switch for an answer piece by piece is read as one that was turned on ahead. -/
theorem afterVerb_stream (rest : List String) :
    afterVerb .execute .start ("--stream" :: rest) =
      afterVerb .execute (Reading.start.ahead [.stream]) rest := by
  rfl

end Commands

section Naming

/-- Options that give texts to variables and choose a model, whatever these look like. -/
def choosing (texts : List String) (model : Option String) : List String :=
  texts.map ("--var=" ++ ·) ++ model.toList.map ("--model=" ++ ·)

/-- Arguments that name a template after such options, whatever the name looks like. -/
def naming (name : String) (texts : List String) (model : Option String) : List String :=
  choosing texts model ++ ["--", name]

/-- The name and the value that a text gives to a variable, or what is wrong with the text. -/
def entry (text : String) : Except Misuse (String × Json) :=
  (assignment text).mapError (.assignment text)

variable {texts : List String} {model : Option String}

theorem form_var (text : String) : Form.of ("--var=" ++ text) = .named "var" (some text) := by
  have hargument : ("--var=" ++ text).toList =
      '-' :: '-' :: 'v' :: 'a' :: 'r' :: '=' :: text.toList :=
    String.toList_append
  simp [Form.of, hargument, Text.splitOnce]

theorem form_model (text : String) : Form.of ("--model=" ++ text) = .named "model" (some text) := by
  have hargument : ("--model=" ++ text).toList =
      '-' :: '-' :: 'm' :: 'o' :: 'd' :: 'e' :: 'l' :: '=' :: text.toList :=
    String.toList_append
  simp [Form.of, hargument, Text.splitOnce]

theorem form_of_mem_choosing (h : argument ∈ choosing texts model) :
    ∃ option text, Form.of argument = .named option (some text) := by
  rcases List.mem_append.mp h with h | h
  · obtain ⟨text, _, rfl⟩ := List.mem_map.mp h
    exact ⟨_, _, form_var text⟩
  · obtain ⟨text, _, rfl⟩ := List.mem_map.mp h
    exact ⟨_, _, form_model text⟩

theorem unswitched_naming (name : String) (texts : List String) (model : Option String) :
    Unswitched (naming name texts model) := by
  have hne : ∀ a ∈ choosing texts model, decide (a ≠ "--") = true := by
    intro a ha
    refine decide_eq_true ?_
    rintro rfl
    obtain ⟨_, _, hform⟩ := form_of_mem_choosing ha
    cases hform
  rw [Unswitched, naming, List.takeWhile_append_of_pos hne, List.takeWhile_cons_of_neg (by simp),
    List.append_nil]
  intro hstream
  obtain ⟨_, _, hform⟩ := form_of_mem_choosing hstream
  cases hform

theorem step_var (g : Given) (text : String) :
    Reading.step (some .render) ⟨g, none, false⟩ ("--var=" ++ text) =
      (entry text).map fun e => ⟨{ g with values := g.values ++ [e] }, none, false⟩ := by
  have hsetting : (settings (some .render)).lookup "var" = some .variable := rfl
  simp only [Reading.step, Bool.false_eq_true, if_false, form_var, hsetting, Reading.setting,
    Reading.settle, Given.take, entry]
  cases assignment text <;> rfl

theorem foldlM_step_var (g : Given) (texts : List String) :
    (texts.map ("--var=" ++ ·)).foldlM (Reading.step (some .render)) ⟨g, none, false⟩ =
      (texts.mapM entry).map fun es => ⟨{ g with values := g.values ++ es }, none, false⟩ := by
  induction texts generalizing g with
  | nil =>
      simp [Except.map, pure, Except.pure]
  | cons text rest ih =>
      rw [List.map_cons, List.foldlM_cons, step_var, List.mapM_cons]
      cases entry text with
      | error m => rfl
      | ok e =>
          refine (ih _).trans ?_
          show _ = Except.map _ (rest.mapM entry >>= fun es => .ok (e :: es))
          cases rest.mapM entry with
          | error m => rfl
          | ok es => simp [Except.map, bind, Except.bind]

theorem foldlM_step_name {g : Given} (hname : g.name = none) (name : String) :
    ["--", name].foldlM (Reading.step (some .render)) ⟨g, none, false⟩ =
      .ok ⟨{ g with name := some name }, none, true⟩ := by
  have hoperand : Reading.operand (some .render) ⟨g, none, true⟩ name =
      .ok ⟨{ g with name := some name }, none, true⟩ := by
    rw [Reading.operand, if_pos (by simp [hname, Verb.invokes])]
    rfl
  show (Reading.operand (some .render) ⟨g, none, true⟩ name >>= pure) = _
  rw [hoperand]
  rfl

/-- All that is wanted of a template can be given. -/
theorem afterVerb_naming (name : String) (texts : List String) (model : Option String) :
    afterVerb .render .start (naming name texts model) =
      (texts.mapM entry).map fun es => ⟨model.toList.map (.model, ·), [], es, some name⟩ := by
  have hmodel : ∀ es, (model.toList.map ("--model=" ++ ·)).foldlM (Reading.step (some .render))
      ⟨⟨[], [], es, none⟩, none, false⟩ =
        .ok ⟨⟨model.toList.map (.model, ·), [], es, none⟩, none, false⟩ := by
    intro es
    cases model with
    | none => rfl
    | some text =>
        have hsetting : (settings (some .render)).lookup "model" = some .model := rfl
        simp [Reading.step, form_model, hsetting, Reading.setting, Reading.settle, Given.take,
          Given.get?, bind, Except.bind, pure, Except.pure]
  rw [afterVerb, naming, choosing, List.foldlM_append, List.foldlM_append, Reading.start,
    foldlM_step_var]
  cases texts.mapM entry with
  | error m => rfl
  | ok es =>
      simp only [Except.map, bind, Except.bind, List.nil_append, hmodel]
      rw [foldlM_step_name rfl]
      rfl

end Naming

end Command

namespace CommandLine

open Command

variable {before rest : List String} {r : Reading} {g : Given} {more : List Switch}
variable {line : CommandLine} {word : String} {verb : Verb}

/-- Arguments that stand before the name of a command: options with their values. -/
def LeadUp (before : List String) (r : Reading) : Prop :=
  Reading.start.upToVerb before = .ok (r, none) ∧ r.operandsOnly = false ∧ r.wantsValue = false

/-- What was given before the name of a command and after it make up a command line. -/
def madeUp (before : Reading) (verb : Verb) (after : Given) : Except Misuse CommandLine := do
  let command ← after.command verb
  let before ← before.settle
  .ok {
    root := ((after.get? .root).or (before.get? .root)).getD "."
    config := (after.get? .config).or (before.get? .config)
    logs := after.switches.contains .logFile || before.switches.contains .logFile
    command }

/-- The command line that executes what this one renders. -/
def executing (streaming : Bool) (line : CommandLine) : CommandLine :=
  match line.command with
  | .render i => { line with command := .execute i streaming }
  | .list | .validate _ | .execute _ _ => line

theorem upToVerb_append {start : Reading} (hword : Verb.ofWord? word = some verb)
    (hread : start.upToVerb before = .ok (r, none)) (honly : r.operandsOnly = false)
    (hwants : r.wantsValue = false) (rest : List String) :
    start.upToVerb (before ++ word :: rest) = .ok (r, some (verb, rest)) := by
  induction before generalizing start with
  | nil =>
      cases hread
      simp [Reading.upToVerb, honly, hwants, hword]
  | cons argument before ih =>
      rw [List.cons_append, Reading.upToVerb]
      rw [Reading.upToVerb] at hread
      split at hread
      · cases hread
      · obtain ⟨next, hstep, hnext⟩ := exists_of_bind_eq_ok hread
        rw [hstep]
        exact ih hnext

theorem ofArguments_of_verb (hword : Verb.ofWord? word = some verb) (hbefore : LeadUp before r)
    (rest : List String) :
    ofArguments (before ++ word :: rest) = afterVerb verb .start rest >>= madeUp r verb := by
  obtain ⟨hread, honly, hwants⟩ := hbefore
  rw [ofArguments, upToVerb_append hword hread honly hwants, afterVerb, bind_assoc]
  rfl

/-- The same was given to execute as to render, but perhaps for the kind of the answer. -/
theorem madeUp_execute (hmore : Switch.logFile ∉ more) (hplain : Switch.stream ∉ g.switches) :
    madeUp r .execute (g.ahead more) =
      (madeUp r .render g).map (executing (more.contains .stream)) := by
  have hlogs : (g.switches ++ more).contains .logFile = g.switches.contains .logFile := by
    simp [hmore]
  have hstream : (g.switches ++ more).contains .stream = more.contains .stream := by
    simp [hplain]
  have hinvocation : (g.ahead more).invocation = g.invocation := rfl
  simp only [madeUp, Given.command, hinvocation]
  simp only [Given.ahead, Given.get?, hlogs, hstream]
  cases g.invocation with
  | error m => rfl
  | ok i => cases r.settle <;> rfl

theorem command_of_madeUp (h : madeUp r .render g = .ok line) : ∃ i, line.command = .render i := by
  obtain ⟨command, hcommand, hrest⟩ := exists_of_bind_eq_ok h
  obtain ⟨before, _, hline⟩ := exists_of_bind_eq_ok hrest
  cases hline
  rw [Given.command] at hcommand
  cases hi : g.invocation with
  | error m =>
      rw [hi] at hcommand
      cases hcommand
  | ok i =>
      rw [hi] at hcommand
      cases hcommand
      exact ⟨i, rfl⟩

/-- Arguments that ask to render a template name the template. -/
theorem command_of_render (hbefore : LeadUp before r)
    (h : ofArguments (before ++ "render" :: rest) = .ok line) : ∃ i, line.command = .render i := by
  rw [ofArguments_of_verb rfl hbefore] at h
  obtain ⟨g, _, hmade⟩ := exists_of_bind_eq_ok h
  exact command_of_madeUp hmade

/-- Arguments that do not ask for pieces are refused after the names of both commands, or ask for
the same template after both. -/
theorem ofArguments_execute (hbefore : LeadUp before r) (hrest : Unswitched rest) :
    ofArguments (before ++ "exec" :: rest) =
        (ofArguments (before ++ "render" :: rest)).map (executing false) ∧
      ofArguments (before ++ "exec" :: "--stream" :: rest) =
        (ofArguments (before ++ "render" :: rest)).map (executing true) := by
  have hexec : Verb.ofWord? "exec" = some .execute := rfl
  rw [ofArguments_of_verb hexec hbefore, ofArguments_of_verb hexec hbefore, afterVerb_stream,
    ofArguments_of_verb rfl hbefore]
  have hmade : ∀ more : List Switch, Switch.logFile ∉ more →
      (afterVerb .execute (Reading.start.ahead more) rest >>= madeUp r .execute) =
        (afterVerb .render .start rest >>= madeUp r .render).map
          (executing (more.contains .stream)) := by
    intro more hmore
    rw [afterVerb_execute hmore fun _ => hrest]
    cases hgiven : afterVerb .render .start rest with
    | error m => rfl
    | ok g => exact madeUp_execute hmore (stream_not_mem_afterVerb hgiven)
  exact ⟨hmade [] (by simp), hmade [.stream] (by simp)⟩

/-- Arguments that ask for pieces are refused after the name of a rendering. -/
theorem ofArguments_of_switched (hbefore : LeadUp before r) (hrest : ¬Unswitched rest) :
    ∃ m, ofArguments (before ++ "render" :: rest) = .error m := by
  obtain ⟨m, hread⟩ := Reading.foldlM_step_of_switched (r := .start) rfl hrest
  rw [ofArguments_of_verb rfl hbefore, afterVerb, hread]
  exact ⟨m, rfl⟩

/-- Whatever the name of a template, the texts for its variables and the model are, they can be
given, and only a text that gives no value is refused. -/
theorem ofArguments_naming (hbefore : LeadUp before r) (name : String) (texts : List String)
    (model : Option String) :
    ofArguments (before ++ "render" :: naming name texts model) = (do
      let entries ← texts.mapM entry
      let g ← r.settle
      .ok ⟨(g.get? .root).getD ".", g.get? .config, g.switches.contains .logFile,
        .render ⟨name, Dictionary.ofEntries entries, model⟩⟩) := by
  rw [ofArguments_of_verb rfl hbefore, afterVerb_naming]
  cases texts.mapM entry with
  | error m => rfl
  | ok entries =>
      cases model with
      | none => rfl
      | some m => rfl

end CommandLine

end PromptBook

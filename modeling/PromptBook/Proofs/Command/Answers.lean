import PromptBook.Proofs.Command.Reading
import PromptBook.Proofs.Command.Validation
import PromptBook.Proofs.Engine.Delivery
import PromptBook.Proofs.Engine.Dispatch
import PromptBook.Proofs.Exchange.Echo
import PromptBook.Proofs.Text.Words

/-!
# Rendering and executing on the command line

To render a template, to execute it, and to execute it piece by piece go the same way up to the
request.  After that nothing can fail, since the backend of a project is an echo: the one command
prints the request, the others what the echo makes of it, at once or word by word.

**Results.**
* `Workspace.answers`: the three commands in a project.
* `run_executing`, `runArguments_executing`: three command lines, and three runs.
* `execution_agrees_with_render`: what three runs with the same arguments have in common.
-/

namespace PromptBook

open Files (Tree)

namespace Command

section Workspaces

variable {w : Workspace} {i : Invocation}

/-- What a project answers to a request, at once. -/
def Workspace.reply (w : Workspace) (r : Request) : String :=
  Backend.echoText w.config.execution.backend.opening r

/-- What a text is word by word: its words with single spaces between them. -/
def wordByWord (s : String) : String :=
  " ".intercalate ((Text.words s.toList).map String.ofList)

/-- An echo answers every request, at once and piece by piece. -/
theorem Workspace.answers_of_prepared {e : Engine} {now : Timestamp} {t : Template}
    {values : Values} {o : Options} {r : Request}
    (hbackend : e.backend = .echo w.config.execution.backend.opening)
    (h : e.prepare now t values o false = .ok r) :
    (e.execute now false t values o).result =
        .ok (Backend.echoResponse w.config.execution.backend.opening r) ∧
      let x := e.executeStreaming now false t values o fun _ _ => ⟨false, none⟩
      x.result = .ok () ∧ String.join (x.delivered.map Chunk.text) = wordByWord (w.reply r) := by
  refine ⟨?_, ?_⟩
  · rw [Engine.execute, h, hbackend]
    rfl
  · have hstreaming : e.prepare now t values o true = .ok (r.sentAs now true) := by
      rw [e.prepare_sentAs now now t values o false true, h]
      rfl
    have hanswer : e.backend.stream (r.sentAs now true) =
        .answer (Backend.echoScript w.config.execution.backend.opening (r.sentAs now true)) := by
      rw [hbackend]
      rfl
    rw [Engine.executeStreaming_of_answer hstreaming hanswer,
      Engine.deliver_of_no_stop fun _ _ => rfl]
    exact ⟨rfl, Backend.text_echoScript _ _⟩

/-- In a project, a template cannot be rendered, executed or executed piece by piece for one and
the same reason, or its request is printed and the echo of it. -/
theorem Workspace.answers (w : Workspace) (i : Invocation) :
    (∃ f, w.render i = ⟨"", some f⟩ ∧ w.execute i = ⟨"", some f⟩ ∧
        w.executeStreaming i = ⟨"", some f⟩) ∨
      ∃ r, (w.manager.render w.now w.files i.name i.values (options i)).1 = .ok r ∧
        w.render i = .success (r.toJson.pretty 0 ++ "\n") ∧
        w.execute i = .success (w.reply r ++ "\n") ∧
        w.executeStreaming i = .success (wordByWord (w.reply r) ++ "\n") := by
  cases hload : (w.manager.load w.now w.files i.name).1 with
  | error e =>
      refine .inl ⟨.ofExecution e, ?_, ?_, ?_⟩
      · rw [render, Manager.render_of_unloaded hload]
        rfl
      · rw [execute, Manager.execute_of_unloaded hload]
        rfl
      · rw [executeStreaming, Manager.executeStreaming_of_unloaded hload]
        rfl
  | ok t =>
      have hbackend : w.manager.engine.backend = .echo w.config.execution.backend.opening := rfl
      rw [render, execute, executeStreaming, Manager.render_of_loaded hload,
        Manager.execute_of_loaded hload, Manager.executeStreaming_of_loaded hload,
        Manager.engine_load]
      simp only [Manager.countExecution]
      cases hprepare : w.manager.engine.prepare w.now t i.values (options i) false with
      | error e =>
          have hrefuses := Engine.prepare_eq_error_iff.mp hprepare
          refine .inl ⟨.ofExecution e, ?_, ?_, ?_⟩
          · rw [Engine.render, hprepare]
            rfl
          · rw [Engine.execute_of_refused hprepare]
            rfl
          · rw [Engine.executeStreaming_of_refused (Engine.prepare_of_refuses hrefuses)]
            rfl
      | ok r =>
          obtain ⟨hcomplete, hpiecewise, htext⟩ := answers_of_prepared hbackend hprepare
          refine .inr ⟨r, hprepare, ?_, ?_, ?_⟩
          · rw [Engine.render, hprepare]
            rfl
          · rw [hcomplete]
            simp [Result.ofExcept, Backend.echoResponse, Message.text, Block.text?, reply]
          · simp only [hpiecewise, htext]
            rfl

end Workspaces

end Command

namespace CommandLine

open Command

variable {before rest arguments : List String} {line : CommandLine} {r : Reading}
variable {now : Timestamp} {files found : Tree} {config : ProjectConfig} {i : Invocation}

section Runs

theorem run_of_logs {e : Logs.Error} (h : line.prepareLogs now files = .error e) :
    line.run now files = ⟨Logs.clean files line.root, "", .failure (.ofLogs e)⟩ := by
  rw [run, h]

theorem run_of_config {e : ConfigError} (hlogs : line.prepareLogs now files = .ok found)
    (h : ProjectConfig.load found line.configPath = .error e) :
    line.run now files = ⟨found, "", .failure (.ofConfig line.configPath e)⟩ := by
  rw [run, hlogs]
  simp [result, h]

theorem run_of_failure {f : Failure} (hlogs : line.prepareLogs now files = .ok found)
    (hconfig : ProjectConfig.load found line.configPath = .ok config)
    (h : Workspace.perform ⟨now, found, line.root, config⟩ line.command = ⟨"", some f⟩) :
    line.run now files = ⟨found, "", .failure f⟩ := by
  rw [run, hlogs]
  simp [result, hconfig, h]

theorem run_of_success {output : String} (hlogs : line.prepareLogs now files = .ok found)
    (hconfig : ProjectConfig.load found line.configPath = .ok config)
    (h : Workspace.perform ⟨now, found, line.root, config⟩ line.command = .success output) :
    line.run now files = ⟨found, output, .success⟩ := by
  rw [run, hlogs]
  simp [result, hconfig, h, Result.success]

/-- To execute what a command line renders does nothing else with the logs and the configuration. -/
theorem executing_eq (hcommand : line.command = .render i) (streaming : Bool) :
    line.executing streaming = { line with command := .execute i streaming } := by
  rw [executing, hcommand]

/-- A command line that renders a template and those that execute it leave the same when they fail,
and they fail together. -/
theorem run_executing (hcommand : line.command = .render i) (now : Timestamp) (files : Tree) :
    (∃ files' f, ∀ l ∈ [line, line.executing false, line.executing true],
        l.run now files = ⟨files', "", .failure f⟩) ∨
      ∃ found config request, line.prepareLogs now files = .ok found ∧
        ProjectConfig.load found line.configPath = .ok config ∧
        let w : Workspace := ⟨now, found, line.root, config⟩
        (w.manager.render now found i.name i.values (options i)).1 = .ok request ∧
          line.run now files = ⟨found, request.toJson.pretty 0 ++ "\n", .success⟩ ∧
          (line.executing false).run now files = ⟨found, w.reply request ++ "\n", .success⟩ ∧
          (line.executing true).run now files =
            ⟨found, wordByWord (w.reply request) ++ "\n", .success⟩ := by
  rw [executing_eq hcommand, executing_eq hcommand]
  cases hlogs : line.prepareLogs now files with
  | error e =>
      refine .inl ⟨Logs.clean files line.root, .ofLogs e, fun l hl => ?_⟩
      have hsame : l.prepareLogs now files = .error e ∧ l.root = line.root := by
        simp only [List.mem_cons, List.not_mem_nil, or_false] at hl
        rcases hl with rfl | rfl | rfl <;> exact ⟨hlogs, rfl⟩
      rw [run_of_logs hsame.1, hsame.2]
  | ok found =>
      cases hconfig : ProjectConfig.load found line.configPath with
      | error e =>
          refine .inl ⟨found, .ofConfig line.configPath e, fun l hl => ?_⟩
          have hsame : l.prepareLogs now files = .ok found ∧ l.configPath = line.configPath := by
            simp only [List.mem_cons, List.not_mem_nil, or_false] at hl
            rcases hl with rfl | rfl | rfl <;> exact ⟨hlogs, rfl⟩
          rw [run_of_config hsame.1 (hsame.2 ▸ hconfig), hsame.2]
      | ok config =>
          rcases Workspace.answers ⟨now, found, line.root, config⟩ i with
            ⟨f, hrender, hcomplete, hpiecewise⟩ |
            ⟨request, hrequest, hrender, hcomplete, hpiecewise⟩
          · refine .inl ⟨found, f, fun l hl => ?_⟩
            simp only [List.mem_cons, List.not_mem_nil, or_false] at hl
            rcases hl with rfl | rfl | rfl
            · exact run_of_failure hlogs hconfig (by rw [hcommand]; exact hrender)
            · exact run_of_failure hlogs hconfig hcomplete
            · exact run_of_failure hlogs hconfig hpiecewise
          · refine .inr ⟨found, config, request, rfl, hconfig, hrequest, ?_, ?_, ?_⟩
            · exact run_of_success hlogs hconfig (by rw [hcommand]; exact hrender)
            · exact run_of_success hlogs hconfig hcomplete
            · exact run_of_success hlogs hconfig hpiecewise

/-- The three runs with the same arguments come to nothing in the same way, or come to a request,
the echo of it and the words of that. -/
theorem runArguments_executing (hbefore : LeadUp before r) (hrest : Unswitched rest)
    (now : Timestamp) (files : Tree) :
    let rendering := runArguments now files (before ++ "render" :: rest)
    let complete := runArguments now files (before ++ "exec" :: rest)
    let piecewise := runArguments now files (before ++ "exec" :: "--stream" :: rest)
    (rendering.ending.code ≠ 0 ∧ complete = rendering ∧ piecewise = rendering) ∨
      ∃ line i found config request, ofArguments (before ++ "render" :: rest) = .ok line ∧
        line.command = .render i ∧ line.prepareLogs now files = .ok found ∧
        ProjectConfig.load found line.configPath = .ok config ∧
        let w : Workspace := ⟨now, found, line.root, config⟩
        (w.manager.render now found i.name i.values (options i)).1 = .ok request ∧
          rendering = ⟨found, request.toJson.pretty 0 ++ "\n", .success⟩ ∧
          complete = ⟨found, w.reply request ++ "\n", .success⟩ ∧
          piecewise = ⟨found, wordByWord (w.reply request) ++ "\n", .success⟩ := by
  intro rendering complete piecewise
  obtain ⟨hexec, hstream⟩ := ofArguments_execute hbefore hrest
  simp only [rendering, complete, piecewise, runArguments, hexec, hstream]
  cases hline : ofArguments (before ++ "render" :: rest) with
  | error m => exact .inl ⟨by simp [Ending.code], rfl, rfl⟩
  | ok line =>
      obtain ⟨i, hcommand⟩ := command_of_render hbefore hline
      simp only [Except.map]
      rcases run_executing hcommand now files with
        ⟨files', f, hall⟩ | ⟨found, config, request, hlogs, hconfig, hruns⟩
      · rw [hall line (by simp), hall _ (by simp), hall (line.executing true) (by simp)]
        exact .inl ⟨by simp [Ending.code], rfl, rfl⟩
      · exact .inr ⟨line, i, found, config, request, rfl, hcommand, hlogs, hconfig, hruns⟩

/--
The arguments that render a template execute it after the name of that command, and piece by piece
with a switch more, whatever the files of the project are.  If one of the three runs fails, all do,
and what they leave and say is the same.  Otherwise the first prints the request of the template,
the second the opening that the project is configured with and a line for each message of the user
with text, and the third the words of that with single spaces between them.

The arguments must not hold that switch themselves: it is no option of a rendering, which refuses
them.  But a name, texts for variables and a model can always be given without it, whatever they
look like: then all is read as it was meant, unless a text gives no value.  Other arguments that
cannot be read are one misuse here, `unreadable`: the usage or the help that a command shows for
them is left out of the runs.
-/
theorem execution_agrees_with_render (hbefore : LeadUp before r) (hrest : Unswitched rest)
    (now : Timestamp) (files : Tree) :
    let rendering := runArguments now files (before ++ "render" :: rest)
    let complete := runArguments now files (before ++ "exec" :: rest)
    let piecewise := runArguments now files (before ++ "exec" :: "--stream" :: rest)
    (complete.ending.code = 0 ↔ rendering.ending.code = 0) ∧
      (piecewise.ending.code = 0 ↔ rendering.ending.code = 0) ∧
      (rendering.ending.code ≠ 0 → complete = rendering ∧ piecewise = rendering) ∧
      (rendering.ending.code = 0 →
        ∃ (line : CommandLine) (i : Invocation) (found : Tree) (config : ProjectConfig)
          (request : Request),
          ofArguments (before ++ "render" :: rest) = .ok line ∧ line.command = .render i ∧
          line.prepareLogs now files = .ok found ∧
          ProjectConfig.load found line.configPath = .ok config ∧
          let w : Workspace := ⟨now, found, line.root, config⟩
          (w.manager.render now found i.name i.values (options i)).1 = .ok request ∧
          let said := (request.messages.filter (·.speaker = .user)).map Message.text
          let reply := config.execution.backend.opening.getD "" ++
            "\n".intercalate (said.filter (!·.isEmpty))
          rendering.output = request.toJson.pretty 0 ++ "\n" ∧
            complete.output = reply ++ "\n" ∧
            ∃ words, Text.SplitsInto reply.toList words ∧
              piecewise.output = " ".intercalate (words.map String.ofList) ++ "\n") ∧
      (∀ (name : String) (texts : List String) (model : Option String),
        Unswitched (naming name texts model) ∧
          ofArguments (before ++ "render" :: naming name texts model) = (do
            let entries ← texts.mapM entry
            let g ← r.settle
            .ok ⟨(g.get? .root).getD ".", g.get? .config, g.switches.contains .logFile,
              .render ⟨name, Dictionary.ofEntries entries, model⟩⟩)) ∧
      ∀ other, ¬Unswitched other →
        (runArguments now files (before ++ "render" :: other)).ending.code = 2 := by
  intro rendering complete piecewise
  have hnaming := fun name texts model =>
    And.intro (unswitched_naming name texts model) (ofArguments_naming hbefore name texts model)
  have hrefused : ∀ other, ¬Unswitched other →
      (runArguments now files (before ++ "render" :: other)).ending.code = 2 := by
    intro other hother
    obtain ⟨m, hm⟩ := ofArguments_of_switched hbefore hother
    rw [runArguments, hm]
    rfl
  rcases runArguments_executing hbefore hrest now files with
    ⟨hcode, hcomplete, hpiecewise⟩ |
    ⟨line, i, found, config, request, hline, hcommand, hlogs, hconfig, hrequest, h, h', h''⟩
  · rw [show complete = rendering from hcomplete, show piecewise = rendering from hpiecewise]
    exact ⟨Iff.rfl, Iff.rfl, fun _ => ⟨rfl, rfl⟩, fun hzero => absurd hzero hcode, hnaming,
      hrefused⟩
  · rw [show rendering = _ from h, show complete = _ from h', show piecewise = _ from h'']
    refine ⟨Iff.rfl, Iff.rfl, fun hcode => absurd rfl hcode, fun _ => ?_, hnaming, hrefused⟩
    exact ⟨line, i, found, config, request, hline, hcommand, hlogs, hconfig, hrequest, rfl, rfl, _,
      Text.splitsInto_iff.mpr rfl, rfl⟩

end Runs

section Drafts

open Substitution (substitute)

/-- What names the letter among the drafts, says to whom it goes, and chooses a model. -/
def letterArguments : List String := ["--var=name=-Ann", "-m", "m", "--", "a"]

def letterInvocation : Invocation := ⟨"a", [("name", .string "-Ann")], some "m"⟩

/-- What is sent of the letter. -/
def letterRequest : Request :=
  .ofText "a" "Dear  -Ann,\n\tall is  well."

/-- The request as it is printed. -/
def letterText : String :=
  String.join [
    "\x7b\n",
    "  \"model\": \"m\",\n",
    "  \"messages\": [\n",
    "    \x7b\n",
    "      \"role\": \"user\",\n",
    "      \"content\": [\n",
    "        \x7b\n",
    "          \"type\": \"text\",\n",
    "          \"text\": \"Dear  -Ann,\\n\\tall is  well.\"\n",
    "        \x7d\n",
    "      ]\n",
    "    \x7d\n",
    "  ],\n",
    "  \"config\": \x7b\x7d,\n",
    "  \"trace\": \x7b\n",
    "    \"template\": \"a\",\n",
    "    \"version\": \"1.0.0\",\n",
    "    \"timestamp\": \"1970-01-01T00:00:00Z\",\n",
    "    \"streaming\": false\n",
    "  \x7d\n",
    "\x7d\n"]

/-- A manager of the project finds the letter. -/
theorem load_drafts :
    ((Workspace.manager ⟨.epoch, drafts, ".", .default⟩).load .epoch drafts "a").1 =
      .ok draftedLetter := by
  let m := Workspace.manager ⟨.epoch, drafts, ".", .default⟩
  have hread := readAt_draftedLetter
  have hreaches : m.loader.Reaches drafts "./prompts" "a" "a.prompt" :=
    ⟨by decide, [], "prompt", ["yaml", "yml"], by decide, by decide, by simp⟩
  have hnamed : m.loader.readNamed .epoch drafts "./prompts" "a" = .ok draftedLetter :=
    Loader.readNamed_eq_ok_iff.mpr
      ⟨_, Loader.find?_of_reaches hreaches (Loader.isFile_of_readAt hread), hread⟩
  exact Manager.load_new_eq_ok_iff.mpr ⟨hnamed, Manager.check_of_lenient rfl (by decide)⟩

theorem substitute_regards :
    substitute letterInvocation.values regards = "Dear  -Ann,\n\tall is  well." := by
  have hpieces : Placeholder.pieces regards.toList =
      "Dear  ".toList.map .char ++
        .token "name".toList :: ",\n\tall is  well.".toList.map .char := by
    cbv
  rw [substitute, hpieces]
  decide

theorem render_drafts :
    ((Workspace.manager ⟨.epoch, drafts, ".", .default⟩).render .epoch drafts "a"
      letterInvocation.values (options letterInvocation)).1 = .ok letterRequest := by
  let m := Workspace.manager ⟨.epoch, drafts, ".", .default⟩
  have hblank : Text.isBlankText "Dear  -Ann,\n\tall is  well." = false := by
    decide
  have hsaid : Engine.utterances draftedLetter letterInvocation.values =
      [(.user, .text "Dear  -Ann,\n\tall is  well.")] := by
    simp [Engine.utterances, draftedLetter, Template.ofParts, Part.utterance?,
      Part.utterance?.spoken, Part.user, substitute_regards, hblank]
  rw [Manager.render_of_loaded load_drafts, Manager.engine_load]
  show m.engine.buildRequest .epoch draftedLetter letterInvocation.values
    (options letterInvocation) false = _
  rw [Engine.buildRequest, hsaid]
  rfl

theorem execution_agrees_with_render_letter :
    let rendering := runArguments .epoch drafts (["--root", "."] ++ "render" :: letterArguments)
    let complete := runArguments .epoch drafts (["--root", "."] ++ "exec" :: letterArguments)
    let piecewise :=
      runArguments .epoch drafts (["--root", "."] ++ "exec" :: "--stream" :: letterArguments)
    LeadUp ["--root", "."] ⟨⟨[], [], [], none⟩, some ⟨.root, some "."⟩, false⟩ ∧
      Unswitched letterArguments ∧
      rendering.ending.code = 0 ∧ complete.ending.code = 0 ∧ piecewise.ending.code = 0 ∧
      rendering.output = letterText ∧
      complete.output = "Dear  -Ann,\n\tall is  well.\n" ∧
      piecewise.output = "Dear -Ann, all is well.\n" := by
  intro rendering complete piecewise
  have hbefore : LeadUp ["--root", "."] ⟨⟨[], [], [], none⟩, some ⟨.root, some "."⟩, false⟩ :=
    ⟨rfl, rfl, rfl⟩
  have hrest : Unswitched letterArguments := by
    decide
  have hline : ofArguments (["--root", "."] ++ "render" :: letterArguments) =
      .ok ⟨".", none, false, .render letterInvocation⟩ := rfl
  have hlogs := prepareLogs_drafts (.render letterInvocation)
  have hconfig := load_config_drafts (.render letterInvocation)
  have hcode : rendering.ending.code = 0 := by
    have hperform : Workspace.render ⟨.epoch, drafts, ".", .default⟩ letterInvocation =
        .success (letterRequest.toJson.pretty 0 ++ "\n") := by
      rw [Workspace.render]
      exact congrArg (Result.ofExcept _) render_drafts
    simp only [rendering, runArguments, hline, run_of_success hlogs hconfig hperform]
    rfl
  obtain ⟨hcomplete, hpiecewise, _, hprints, _⟩ :=
    execution_agrees_with_render hbefore hrest .epoch drafts
  obtain ⟨line, i, found, config, request, hline', hcommand, hlogs', hconfig', hrequest, hrendered,
    hreply, words, hwords, hspoken⟩ := hprints hcode
  cases hline.symm.trans hline'
  cases hcommand
  cases hlogs.symm.trans hlogs'
  cases hconfig.symm.trans hconfig'
  cases render_drafts.symm.trans hrequest
  obtain rfl := Text.splitsInto_iff.mp hwords
  refine ⟨hbefore, hrest, hcode, hcomplete.mpr hcode, hpiecewise.mpr hcode,
    hrendered.trans ?_, hreply.trans ?_, hspoken.trans ?_⟩
  · decide +kernel
  · decide
  · decide

end Drafts

end CommandLine

end PromptBook

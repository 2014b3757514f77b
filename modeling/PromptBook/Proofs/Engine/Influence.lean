import PromptBook.Proofs.Engine.Dispatch
import PromptBook.Proofs.Engine.RawPlaceholders
import PromptBook.Proofs.Substitution.Influence
import PromptBook.Proofs.Template.Defects
import PromptBook.Proofs.Template.References

/-!
# What values do to a request

A request depends on the variables in the texts of its template that are sent, and on each of them.
The validator asks for less: a declared variable passes if any text of a part refers to it, also the
content of media or a reference beside a text, which nobody sends.

**Results.**
* `utterances_congr`: only the variables in what is sent matter.
* `buildRequest_agree`: requests and texts with values that agree on all variables referred to.
* `utterances_letter_ne`: each variable in what is sent matters.
* `influence_of_declared`: which variables of a valid template matter.
* `captioned_without_influence`: a valid template with a variable that does not.
-/

namespace PromptBook

open Substitution (substitute oneLetter Visible)

variable {values values' : Values} {x : String} {p : Part} {t : Template}

section Sent

/-- The variable stands in a text of the template that is sent. -/
def Template.Sends (t : Template) (x : String) : Prop :=
  ∃ p ∈ t.parts, ∃ source, p.sent? = some source ∧ x ∈ Placeholder.names source

/-- What is sent of a part that refers to a variable stands in the part. -/
theorem Part.mem_sources_of_sent? {source : String} (h : p.sent? = some source)
    (hx : x ∈ Placeholder.names source) : source ∈ p.sources := by
  obtain ⟨kind, content, reference⟩ := p
  cases kind with
  | system =>
      cases h
      exact List.mem_cons_self
  | user =>
      cases h
      exact List.mem_cons_self
  | media =>
      cases reference with
      | none =>
          have hnone : Placeholder.names "" = [] := by
            cbv
          cases h
          rw [Option.getD_none, hnone] at hx
          cases hx
      | some reference =>
          cases h
          simp [sources]
  | other word =>
      cases h

theorem Template.Sends.referenced (h : t.Sends x) : x ∈ t.referenced := by
  obtain ⟨p, hp, source, hsource, hx⟩ := h
  exact mem_referenced_iff.mpr ⟨p, hp, source, Part.mem_sources_of_sent? hsource hx, hx⟩

/-- A part says what is sent of it in one way, whatever the values are. -/
theorem Part.utterance?_of_sent? {source : String} (h : p.sent? = some source) :
    ∃ (speaker : Speaker) (block : String → Block), Function.Injective block ∧
      ∀ values, p.utterance? values = utterance?.spoken values speaker block source := by
  obtain ⟨kind, content, reference⟩ := p
  cases kind with
  | system =>
      cases h
      exact ⟨.system, .text, fun _ _ => Block.text.inj, fun _ => rfl⟩
  | user =>
      cases h
      exact ⟨.user, .text, fun _ _ => Block.text.inj, fun _ => rfl⟩
  | media =>
      cases h
      exact ⟨.user, .media, fun _ _ => Block.media.inj, fun _ => rfl⟩
  | other word =>
      cases h

theorem Part.utterance?_of_not_sent (h : p.sent? = none) (values : Values) :
    p.utterance? values = none := by
  obtain ⟨kind, content, reference⟩ := p
  cases kind with
  | other word =>
      rfl
  | system | user | media =>
      cases h

end Sent

section Agreement

theorem Part.utterance?_congr
    (h : ∀ source, p.sent? = some source →
      ∀ name ∈ Placeholder.names source, values.get? name = values'.get? name) :
    p.utterance? values = p.utterance? values' := by
  cases hsent : p.sent? with
  | none =>
      rw [utterance?_of_not_sent hsent, utterance?_of_not_sent hsent]
  | some source =>
      obtain ⟨speaker, block, _, hspeaks⟩ := utterance?_of_sent? hsent
      rw [hspeaks, hspeaks, utterance?.spoken, utterance?.spoken,
        Substitution.substitute_congr (h source hsent)]

/-- Values that agree on the variables in what is sent make the template say the same. -/
theorem Engine.utterances_congr
    (h : ∀ name, t.Sends name → values.get? name = values'.get? name) :
    utterances t values = utterances t values' := by
  refine List.filterMap_congr fun p hp => ?_
  refine Part.utterance?_congr fun source hsource name hname => ?_
  exact h name ⟨p, hp, source, hsource, hname⟩

end Agreement

section Letters

variable {c c' : Char}

theorem isSome_spoken {speaker : Speaker} {block : String → Block} {source : String} :
    (Part.utterance?.spoken values speaker block source).isSome =
      !Text.isBlankText (substitute values source) := by
  unfold Part.utterance?.spoken
  cases h : Text.isBlankText (substitute values source) <;> simp [h]

/-- Which letter it is does not decide whether a part says something. -/
theorem Part.isSome_utterance?_letter (hc : Visible c) (hc' : Visible c') (values : Values)
    (x : String) (p : Part) :
    (p.utterance? (values.put x (oneLetter c))).isSome =
      (p.utterance? (values.put x (oneLetter c'))).isSome := by
  cases hsent : p.sent? with
  | none =>
      rw [utterance?_of_not_sent hsent, utterance?_of_not_sent hsent]
  | some source =>
      obtain ⟨speaker, block, _, hspeaks⟩ := utterance?_of_sent? hsent
      rw [hspeaks, hspeaks, isSome_spoken, isSome_spoken,
        Substitution.isBlankText_substitute_letter hc hc']

/-- With a letter in the place of a variable, a part that sends it says something. -/
theorem Part.utterance?_letter {source : String} (hsent : p.sent? = some source)
    (hx : x ∈ Placeholder.names source) (values : Values) :
    ∃ (speaker : Speaker) (block : String → Block), Function.Injective block ∧
      ∀ d, Visible d → p.utterance? (values.put x (oneLetter d)) =
        some (speaker, block (substitute (values.put x (oneLetter d)) source)) := by
  obtain ⟨speaker, block, hblock, hspeaks⟩ := utterance?_of_sent? hsent
  refine ⟨speaker, block, hblock, ?_⟩
  intro d hd
  rw [hspeaks]
  exact spoken_eq_some_iff.mpr ⟨Substitution.not_isBlankText_substitute_letter hd hx values, rfl⟩

/-- Two letters in the place of a variable make a part that sends it say two things. -/
theorem Part.utterance?_letter_ne (hc : Visible c) (hc' : Visible c') (hne : c ≠ c')
    {source : String} (hsent : p.sent? = some source) (hx : x ∈ Placeholder.names source)
    (values : Values) :
    p.utterance? (values.put x (oneLetter c)) ≠ p.utterance? (values.put x (oneLetter c')) := by
  obtain ⟨speaker, block, hblock, hspeaks⟩ := utterance?_letter hsent hx values
  rw [hspeaks c hc, hspeaks c' hc']
  intro heq
  obtain ⟨_, htexts⟩ := Prod.mk.inj (Option.some.inj heq)
  exact Substitution.substitute_letter_ne hc hc' hne hx values (hblock htexts)

theorem Engine.utterances_letter_ne_nil (hc : Visible c) (hx : t.Sends x) (values : Values) :
    utterances t (values.put x (oneLetter c)) ≠ [] := by
  obtain ⟨p, hp, source, hsource, hx⟩ := hx
  obtain ⟨speaker, block, _, hspeaks⟩ := Part.utterance?_letter hsource hx values
  exact List.ne_nil_of_mem (List.mem_filterMap.mpr ⟨p, hp, hspeaks c hc⟩)

/-- Two letters in the place of a variable make a template that sends it say two things. -/
theorem Engine.utterances_letter_ne (hc : Visible c) (hc' : Visible c') (hne : c ≠ c')
    (hx : t.Sends x) (values : Values) :
    utterances t (values.put x (oneLetter c)) ≠ utterances t (values.put x (oneLetter c')) := by
  obtain ⟨p, hp, source, hsource, hx⟩ := hx
  intro heq
  rw [utterances, utterances, List.filterMap_eq_flatMap_toList,
    List.filterMap_eq_flatMap_toList] at heq
  -- A part that says nothing with one letter says nothing with the other, so what the template says
  -- can be compared part by part.
  have hlength : ∀ q ∈ t.parts,
      (q.utterance? (values.put x (oneLetter c))).toList.length =
        (q.utterance? (values.put x (oneLetter c'))).toList.length := by
    intro q _
    rw [Option.length_toList, Option.length_toList, Part.isSome_utterance?_letter hc hc']
  have hsame := congrArg List.head? (Substitution.eq_of_flatMap_eq hlength heq p hp)
  rw [Option.head?_toList, Option.head?_toList] at hsame
  exact Part.utterance?_letter_ne hc hc' hne hsource hx values hsame

end Letters

namespace Engine

variable {e : Engine} {now : Timestamp} {o : Options} {streaming : Bool}

/-- Values that agree on the variables in what is sent make the same request. -/
theorem buildRequest_congr (h : ∀ name, t.Sends name → values.get? name = values'.get? name) :
    e.buildRequest now t values o streaming = e.buildRequest now t values' o streaming := by
  rw [buildRequest, buildRequest, utterances_congr h]

/--
Values that agree on the variables of a template make the same request of it, or fail in the same
way, at whatever time; and values that agree on the variables of a text make the same of the text.
-/
theorem buildRequest_agree :
    (∀ (e : Engine) (t : Template) (o : Options) (streaming : Bool) (now now' : Timestamp)
        (values values' : Values),
      (∀ name ∈ t.referenced, values.get? name = values'.get? name) →
        e.buildRequest now' t values' o streaming =
          (e.buildRequest now t values o streaming).map fun r => r.sentAs now' streaming) ∧
      ∀ (text : String) (values values' : Values),
        (∀ name ∈ Placeholder.names text, values.get? name = values'.get? name) →
          substitute values text = substitute values' text := by
  constructor
  · intro e t o streaming now now' values values' hagree
    rw [← buildRequest_sentAs]
    refine buildRequest_congr fun name hname => ?_
    exact (hagree name hname.referenced).symm
  · intro text values values' hagree
    exact Substitution.substitute_congr hagree

/-- What a letter asks for, and more. -/
def addresseeAndAge : Values :=
  ("age", .bool true) :: addressee

theorem buildRequest_agree_letter :
    (∀ name ∈ (letter greeting).referenced, addressee.get? name = addresseeAndAge.get? name) ∧
      (∀ name ∈ Placeholder.names greeting, addressee.get? name = addresseeAndAge.get? name) ∧
      buildRequest ⟨.stalling, false, none⟩ .epoch (letter greeting) addresseeAndAge
        ⟨none, .empty⟩ false = .ok (letterRequest "Dear Ada,") ∧
      substitute addresseeAndAge greeting = "Dear Ada," := by
  have hpieces : Placeholder.pieces greeting.toList =
      "Dear ".toList.map .char ++ [.token "name".toList, .char ','] := by
    cbv
  have hsubstitute : substitute addressee greeting = "Dear Ada," := by
    rw [Substitution.substitute, hpieces]
    decide
  have hnames : Placeholder.names greeting = ["name"] := by
    rw [Placeholder.names, hpieces]
    decide
  have hreferenced : (letter greeting).referenced = ["name"] := by
    simp [Template.referenced, letter, Template.ofParts, Part.sources, Part.user, hnames,
      Placeholder.distinct, Placeholder.addNew]
  have hagree : ∀ name ∈ ["name"], addressee.get? name = addresseeAndAge.get? name := by
    intro name hname
    obtain rfl := List.mem_singleton.mp hname
    rfl
  have hagree_template : ∀ name ∈ (letter greeting).referenced,
      addressee.get? name = addresseeAndAge.get? name := by
    rwa [hreferenced]
  have hagree_text : ∀ name ∈ Placeholder.names greeting,
      addressee.get? name = addresseeAndAge.get? name := by
    rwa [hnames]
  obtain ⟨hrequests, htexts⟩ := buildRequest_agree
  refine ⟨hagree_template, hagree_text, ?_, ?_⟩
  · rw [hrequests _ _ _ _ .epoch .epoch _ _ hagree_template,
      buildRequest_letter hsubstitute (by decide)]
    rfl
  · rw [← htexts _ _ _ hagree_text, hsubstitute]

end Engine

section Declared

/-- The variable stands in a text of the part that nobody sends: beside a text, or beside media. -/
def Part.Hides (p : Part) (x : String) : Prop :=
  (p.kind = .media ∧ x ∈ Placeholder.names p.content) ∨
    ((p.kind = .system ∨ p.kind = .user) ∧
      ∃ reference, p.reference = some reference ∧ x ∈ Placeholder.names reference)

/-- A text of a part that can be used is sent or hidden. -/
theorem Part.hides_of_not_sent {source : String} (hkind : p.kind.isRecognized = true)
    (hsource : source ∈ p.sources) (hx : x ∈ Placeholder.names source)
    (hsent : p.sent? ≠ some source) : p.Hides x := by
  obtain ⟨kind, content, reference⟩ := p
  have hplace : source = content ∨ reference = some source := by
    simpa [sources, Option.mem_toList, eq_comm] using hsource
  cases kind with
  | system =>
      rcases hplace with rfl | hreference
      · exact absurd rfl hsent
      · exact .inr ⟨.inl rfl, source, hreference, hx⟩
  | user =>
      rcases hplace with rfl | hreference
      · exact absurd rfl hsent
      · exact .inr ⟨.inr rfl, source, hreference, hx⟩
  | media =>
      rcases hplace with rfl | rfl
      · exact .inl ⟨rfl, hx⟩
      · exact absurd rfl hsent
  | other word =>
      cases hkind

/-- Without errors, every part is of a known kind. -/
theorem Template.isRecognized_of_isValid (h : t.validate.isValid = true) (hp : p ∈ t.parts) :
    p.kind.isRecognized = true := by
  obtain ⟨_, hsound⟩ := isValid_iff.mp h
  exact (hsound.parts p hp).recognized

/-- Without warnings, every declared variable stands in a text of a part. -/
theorem Template.referenced_of_declared (h : t.validate.warnings = [])
    (hx : ∃ v ∈ t.declarations, v.name = x) : x ∈ t.referenced := by
  obtain ⟨v, hv, rfl⟩ := hx
  have hall : t.declarations.flatMap (variableWarnings t.referenced) = [] :=
    (List.append_eq_nil_iff.mp h).2
  have hwarning := List.flatMap_eq_nil_iff.mp hall v hv
  simpa [variableWarnings] using hwarning

/-- A declared variable of a valid template is sent or hidden. -/
theorem Template.hides_of_not_sends (hvalid : t.validate.passes true = true)
    (hx : ∃ v ∈ t.declarations, v.name = x) (hsends : ¬t.Sends x) : ∃ p ∈ t.parts, p.Hides x := by
  obtain ⟨herrors, hwarnings⟩ := Report.passes_strict_iff.mp hvalid
  obtain ⟨p, hp, source, hsource, hname⟩ :=
    mem_referenced_iff.mp (referenced_of_declared hwarnings hx)
  refine ⟨p, hp, Part.hides_of_not_sent (isRecognized_of_isValid herrors hp) hsource hname ?_⟩
  intro hsent
  exact hsends ⟨p, hp, source, hsent, hname⟩

end Declared

namespace Engine

variable {e : Engine} {now : Timestamp} {o : Options} {streaming : Bool}

/-- The requests with some values and with others are made, and have different messages. -/
def TellsApart (e : Engine) (now : Timestamp) (t : Template) (o : Options) (streaming : Bool)
    (values values' : Values) : Prop :=
  ∃ r r', e.buildRequest now t values o streaming = .ok r ∧
    e.buildRequest now t values' o streaming = .ok r' ∧ r.messages ≠ r'.messages

theorem tellsApart_of_utterances_ne
    (hmodel : ((o.model.or t.model).or e.defaultModel).isSome = true)
    (hsaid : utterances t values ≠ []) (hsaid' : utterances t values' ≠ [])
    (hne : utterances t values ≠ utterances t values') :
    e.TellsApart now t o streaming values values' := by
  obtain ⟨model, hmodel⟩ := Option.isSome_iff_exists.mp hmodel
  obtain ⟨r, hr⟩ := exists_buildRequest hmodel hsaid now streaming
  obtain ⟨r', hr'⟩ := exists_buildRequest hmodel hsaid' now streaming
  refine ⟨r, r', hr, hr', ?_⟩
  intro heq
  apply hne
  -- However the blocks are grouped, the messages can be read back.
  rw [messages_of_buildRequest hr, messages_of_buildRequest hr'] at heq
  rw [← Message.utterances_ofUtterances (utterances t values), heq,
    Message.utterances_ofUtterances]

/-- Two letters in the place of a variable make two requests of a template that sends it. -/
theorem tellsApart_of_sends (hmodel : ((o.model.or t.model).or e.defaultModel).isSome = true)
    (hx : t.Sends x) (values : Values) :
    e.TellsApart now t o streaming (values.put x (oneLetter 'a'))
      (values.put x (oneLetter 'b')) := by
  refine tellsApart_of_utterances_ne hmodel ?_ ?_ ?_
  · exact utterances_letter_ne_nil Substitution.visible_a hx values
  · exact utterances_letter_ne_nil Substitution.visible_b hx values
  · exact utterances_letter_ne Substitution.visible_a Substitution.visible_b (by decide) hx values

/-- A variable that is not sent makes no difference to a request. -/
theorem buildRequest_of_not_sends (hx : ¬t.Sends x)
    (hothers : ∀ name, name ≠ x → values.get? name = values'.get? name) :
    e.buildRequest now t values o streaming = e.buildRequest now t values' o streaming := by
  refine buildRequest_congr fun name hname => hothers name ?_
  rintro rfl
  exact hx hname

/--
A declared variable of a template in which nothing is wrong, not even for a strict eye, matters to
the request if and only if it stands in what is sent.  If it does, then whatever the other values are,
it has two values that make requests with different messages.  If it does not, it stands beside a text
or beside media, and its value changes nothing.
-/
theorem influence_of_declared (hmodel : ((o.model.or t.model).or e.defaultModel).isSome = true)
    (hvalid : t.validate.passes true = true) (hx : ∃ v ∈ t.declarations, v.name = x)
    (now : Timestamp) (streaming : Bool) :
    (t.Sends x → ∀ values : Values, ∃ value value',
        e.TellsApart now t o streaming (values.put x value) (values.put x value')) ∧
      (¬t.Sends x → (∃ p ∈ t.parts, p.Hides x) ∧
        ∀ values values' : Values, (∀ name, name ≠ x → values.get? name = values'.get? name) →
          e.buildRequest now t values o streaming = e.buildRequest now t values' o streaming) := by
  constructor
  · intro hsends values
    exact ⟨oneLetter 'a', oneLetter 'b', tellsApart_of_sends hmodel hsends values⟩
  · intro hsends
    refine ⟨Template.hides_of_not_sends hvalid hx hsends, ?_⟩
    intro values values' hothers
    exact buildRequest_of_not_sends hsends hothers

section Captions

/-- A text with a token. -/
def caption : String := "Describe \x7b\x7bname\x7d\x7d."

/-- A reference that is a token. -/
def photo : String := "\x7b\x7bphoto\x7d\x7d"

/-- A text with a reference beside it, which is not sent. -/
def captioned : Template :=
  { Template.ofParts "captioned" [⟨.user, caption, some photo⟩] (some "m") with
    declarations := [⟨"name", "string", true, none, ""⟩, ⟨"photo", "string", true, none, ""⟩] }

theorem names_caption : Placeholder.names caption = ["name"] := by
  have hpieces : Placeholder.pieces caption.toList =
      "Describe ".toList.map .char ++ [.token "name".toList, .char '.'] := by
    cbv
  rw [Placeholder.names, hpieces]
  decide

theorem passes_captioned : captioned.validate.passes true = true := by
  have hpieces : Placeholder.pieces photo.toList = [.token "photo".toList] := by
    cbv
  have hphoto : Placeholder.names photo = ["photo"] := by
    rw [Placeholder.names, hpieces]
    decide
  have hreferenced : captioned.referenced = ["name", "photo"] := by
    simp [Template.referenced, captioned, Template.ofParts, Part.sources, names_caption, hphoto,
      Placeholder.distinct, Placeholder.addNew]
  rw [Template.validate, hreferenced]
  decide

theorem sends_captioned_iff : captioned.Sends x ↔ x = "name" := by
  constructor
  · rintro ⟨p, hp, source, hsource, hx⟩
    obtain rfl := List.mem_singleton.mp hp
    cases hsource
    rw [names_caption] at hx
    exact List.mem_singleton.mp hx
  · rintro rfl
    refine ⟨_, List.mem_singleton_self _, caption, rfl, ?_⟩
    rw [names_caption]
    exact List.mem_singleton_self _

theorem influence_of_captioned :
    (((none : Option String).or captioned.model).or none).isSome = true ∧
      captioned.validate.passes true = true ∧
      (∃ v ∈ captioned.declarations, v.name = "name") ∧
      ∃ value value', TellsApart ⟨.stalling, true, none⟩ .epoch captioned ⟨none, .empty⟩ false
        (addressee.put "name" value) (addressee.put "name" value') := by
  have hdeclared : ∃ v ∈ captioned.declarations, v.name = "name" :=
    ⟨_, List.mem_cons_self, rfl⟩
  obtain ⟨hmatters, _⟩ :=
    influence_of_declared (e := ⟨.stalling, true, none⟩) (t := captioned) (o := ⟨none, .empty⟩)
      rfl passes_captioned hdeclared .epoch false
  exact ⟨rfl, passes_captioned, hdeclared, hmatters (sends_captioned_iff.mpr rfl) addressee⟩

/-- No two values of the reference beside the text make requests with different messages. -/
theorem captioned_without_influence :
    (((none : Option String).or captioned.model).or none).isSome = true ∧
      captioned.validate.passes true = true ∧
      (∃ v ∈ captioned.declarations, v.name = "photo") ∧
      ¬∃ values values' : Values,
        (∀ name, name ≠ "photo" → values.get? name = values'.get? name) ∧
          TellsApart ⟨.stalling, true, none⟩ .epoch captioned ⟨none, .empty⟩ false
            values values' := by
  refine ⟨rfl, passes_captioned, ⟨_, List.mem_cons_of_mem _ List.mem_cons_self, rfl⟩, ?_⟩
  rintro ⟨values, values', hothers, r, r', hr, hr', hne⟩
  have hnot : ¬captioned.Sends "photo" := by
    rw [sends_captioned_iff]
    decide
  rw [buildRequest_of_not_sends hnot hothers, hr'] at hr
  obtain rfl := Except.ok.inj hr
  exact hne rfl

end Captions

end Engine

end PromptBook

import Mathlib.Data.List.SplitBy
import PromptBook.Proofs.Engine.Messages

/-!
# The turns of a request

Two blocks next to each other belong to one turn if the user speaks both and one of them is media.
The messages of a request are the longest runs of blocks that belong together: a text of the system
is a message of its own, and a text of the user begins a new message unless it follows media.

**Results.**
* `Part.utterance?_eq_some_iff`: what a part says.
* `map_utterances_ofUtterances`: the messages of blocks are the runs of blocks that belong together.
* `turns_iff`: the messages of blocks are the only ones with the structure of `Turns`.
* `buildRequest_turns`: the request of a template.
-/

namespace PromptBook

section Blocks

/-- What a part says: the text or the reference in it, with its placeholders replaced. -/
inductive Part.Says (values : Values) (p : Part) : Utterance → Prop
  | system (hkind : p.kind = .system)
      (hfull : Text.isBlankText (Substitution.substitute values p.content) = false) :
      Says values p (.system, .text (Substitution.substitute values p.content))
  | user (hkind : p.kind = .user)
      (hfull : Text.isBlankText (Substitution.substitute values p.content) = false) :
      Says values p (.user, .text (Substitution.substitute values p.content))
  | media {reference : String} (hkind : p.kind = .media) (hreference : p.reference = some reference)
      (hfull : Text.isBlankText (Substitution.substitute values reference) = false) :
      Says values p (.user, .media (Substitution.substitute values reference))

variable {values : Values} {p : Part} {u : Utterance}

theorem isBlankText_substitute_empty (values : Values) :
    Text.isBlankText (Substitution.substitute values "") = true := by
  cbv

theorem spoken_eq_some_iff {speaker : Speaker} {block : String → Block} {source : String} :
    Part.utterance?.spoken values speaker block source = some u ↔
      Text.isBlankText (Substitution.substitute values source) = false ∧
        (speaker, block (Substitution.substitute values source)) = u := by
  unfold Part.utterance?.spoken
  cases h : Text.isBlankText (Substitution.substitute values source) <;> simp [h]

/-- A part says at most one block. -/
theorem Part.utterance?_eq_some_iff :
    p.utterance? values = some u ↔ p.Says values u := by
  obtain ⟨kind, content, reference⟩ := p
  constructor
  · intro h
    cases kind with
    | system =>
        obtain ⟨hfull, rfl⟩ := spoken_eq_some_iff.mp h
        exact .system rfl hfull
    | user =>
        obtain ⟨hfull, rfl⟩ := spoken_eq_some_iff.mp h
        exact .user rfl hfull
    | media =>
        obtain ⟨hfull, rfl⟩ := spoken_eq_some_iff.mp h
        cases reference with
        | none =>
            simp [isBlankText_substitute_empty] at hfull
        | some s =>
            exact .media rfl rfl hfull
    | other word =>
        cases h
  · intro h
    cases h with
    | system hkind hfull =>
        cases hkind
        exact spoken_eq_some_iff.mpr ⟨hfull, rfl⟩
    | user hkind hfull =>
        cases hkind
        exact spoken_eq_some_iff.mpr ⟨hfull, rfl⟩
    | media hkind hreference hfull =>
        cases hkind
        cases hreference
        exact spoken_eq_some_iff.mpr ⟨hfull, rfl⟩

/-- A block as a part can say it: of the user, or a text of the system. -/
def Utterance.OfPart (u : Utterance) : Prop :=
  u.1 = .user ∨ u.1 = .system ∧ ∃ s, u.2 = .text s

theorem Part.Says.ofPart (h : p.Says values u) : Utterance.OfPart u := by
  cases h with
  | system => exact .inr ⟨rfl, _, rfl⟩
  | user => exact .inl rfl
  | media => exact .inl rfl

end Blocks

namespace Message

variable {us : List Utterance} {ms : List Message}

section Runs

/-- Whether two blocks next to each other belong to one message. -/
def joins (u v : Utterance) : Bool :=
  u.1 = .user && v.1 = .user && (u.2.isMedia || v.2.isMedia)

/-- One more item of a list goes on with the last run if it goes on with the last item of it. -/
theorem splitBy_concat_of_rel {α : Type} {r : α → α → Bool} {xs : List α}
    {groups : List (List α)} {g : List α} {a : α} (h : xs.splitBy r = groups ++ [g])
    (hr : ∀ x ∈ g.getLast?, r x a = true) :
    (xs ++ [a]).splitBy r = groups ++ [g ++ [a]] := by
  obtain ⟨hxs, hnil, hchain, hborder⟩ := List.splitBy_eq_iff.mp h
  obtain ⟨hnil, hg⟩ : [] ∉ groups ∧ [] ≠ g := by
    simpa [not_or] using hnil
  rw [List.isChain_append] at hborder
  obtain ⟨hgroups, -, hlast⟩ := hborder
  rw [List.splitBy_eq_iff]
  refine ⟨by simp [hxs], by simp [hnil], ?_, ?_⟩
  · intro m hm
    rcases List.mem_append.mp hm with hm | hm
    · exact hchain m (List.mem_append_left _ hm)
    · obtain rfl := List.mem_singleton.mp hm
      refine List.IsChain.append (hchain g (by simp)) (.singleton a) ?_
      simpa using hr
  · refine List.IsChain.append hgroups (.singleton _) ?_
    intro m hm n hn
    obtain rfl : g ++ [a] = n := by
      simpa using hn
    obtain ⟨hm, hg, hrel⟩ := hlast m hm g (by simp)
    refine ⟨hm, by simp, ?_⟩
    rwa [List.head_append_of_ne_nil]

/-- A block goes on with a message if and only if it belongs together with the last block there. -/
theorem takes_eq_joins {m : Message} {u v : Utterance} (h : v ∈ m.utterances.getLast?) :
    m.takes u = joins v u := by
  obtain ⟨block, hblock, rfl⟩ : ∃ block, m.content.getLast? = some block ∧
      (m.speaker, block) = v := by
    simpa [utterances] using h
  simp [takes, joins, hblock, Bool.or_comm]

theorem addTo_concat (before : List Message) (m : Message) (u : Utterance) :
    addTo (before ++ [m]) u = before ++ addTo [m] u := by
  induction before with
  | nil =>
      rfl
  | cons n rest ih =>
      have hne : rest ++ [m] ≠ [] := by
        simp
      rw [List.cons_append, List.cons_append, ← ih, addTo]
      exact hne

theorem map_utterances_addTo (h : ms.map utterances = us.splitBy joins) (u : Utterance) :
    (addTo ms u).map utterances = (us ++ [u]).splitBy joins := by
  rcases List.eq_nil_or_concat ms with rfl | ⟨before, m, rfl⟩
  · obtain rfl : us = [] := List.splitBy_eq_nil.mp h.symm
    rfl
  · rw [List.concat_eq_append] at h ⊢
    rw [List.map_append, List.map_singleton] at h
    have hne : m.utterances ≠ [] := by
      have hmem : m.utterances ∈ us.splitBy joins := by
        simp [← h]
      exact List.ne_nil_of_mem_splitBy hmem
    rw [addTo_concat]
    cases htakes : m.takes u with
    | true =>
        have hspeaker := speaker_of_takes htakes
        have hlast : ∀ v ∈ m.utterances.getLast?, joins v u = true := by
          intro v hv
          rw [← takes_eq_joins hv, htakes]
        rw [splitBy_concat_of_rel h.symm hlast]
        simp [addTo, htakes, utterances, hspeaker]
    | false =>
        have hsaid : us = (before.map utterances).flatten ++ m.utterances := by
          rw [← List.flatten_splitBy joins us, ← h]
          simp
        have hlast : ∀ v ∈ us.getLast?, ∀ w ∈ [u].head?, joins v w = false := by
          intro v hv w hw
          obtain rfl : u = w := by
            simpa using hw
          rw [hsaid, List.getLast?_append_of_ne_nil _ hne] at hv
          rw [← takes_eq_joins hv, htakes]
        rw [List.splitBy_append hlast, ← h,
          List.splitBy_of_isChain (List.cons_ne_nil u []) (.singleton u)]
        simp [addTo, htakes, utterances]

/-- The messages of blocks are the longest runs of blocks that belong together. -/
theorem map_utterances_ofUtterances (us : List Utterance) :
    (ofUtterances us).map utterances = us.splitBy joins := by
  induction us using List.reverseRecOn with
  | nil =>
      rfl
  | append_singleton us u ih =>
      rw [ofUtterances, List.foldl_append]
      exact map_utterances_addTo ih u

theorem ofUtterances_eq_nil_iff : ofUtterances us = [] ↔ us = [] := by
  rw [← List.map_eq_nil_iff, map_utterances_ofUtterances, List.splitBy_eq_nil]

end Runs

section Structure

/-- How messages are made up of blocks. -/
structure Turns (us : List Utterance) (ms : List Message) : Prop where
  /-- The messages say the blocks: none is lost, doubled or moved. -/
  said : ms.flatMap utterances = us
  full : ∀ m ∈ ms, m.content ≠ []
  system : ∀ m ∈ ms, m.speaker = .system → ∃ s, m.content = [.text s]
  /-- Of two blocks next to each other at least one is media. -/
  user : ∀ m ∈ ms, m.speaker = .user →
    m.content.IsChain fun a b => a.isMedia = true ∨ b.isMedia = true
  /-- One message of the user follows another only between two texts. -/
  border : ms.IsChain fun m n => m.speaker = .user → n.speaker = .user →
    (∃ s, m.content.getLast? = some (.text s)) ∧ ∃ s, n.content.head? = some (.text s)

theorem isMedia_eq_false_iff {block : Block} : block.isMedia = false ↔ ∃ s, block = .text s := by
  cases block <;> simp [Block.isMedia]

/-- A message is a run of blocks that belong together. -/
theorem isChain_utterances_iff {m : Message} (hfull : m.content ≠ [])
    (hpart : ∀ u ∈ m.utterances, u.OfPart) :
    m.utterances.IsChain (fun u v => joins u v = true) ↔
      (m.speaker = .system → ∃ s, m.content = [.text s]) ∧
        (m.speaker = .user →
          m.content.IsChain fun a b => a.isMedia = true ∨ b.isMedia = true) := by
  obtain ⟨speaker, content⟩ := m
  obtain ⟨block, rest, rfl⟩ := List.exists_cons_of_ne_nil hfull
  have hblock : Utterance.OfPart (speaker, block) := hpart _ List.mem_cons_self
  cases speaker with
  | user =>
      rw [utterances, List.isChain_map]
      simp [joins]
  | system =>
      cases rest with
      | nil =>
          obtain h | ⟨_, s, rfl⟩ := hblock
          · cases h
          · simp [utterances]
      | cons next rest =>
          simp [utterances, joins]
  | model =>
      obtain h | ⟨h, _⟩ := hblock
      · cases h
      · cases h

theorem not_joins_border_iff {m n : Message} (hm : m.content ≠ []) (hn : n.content ≠ []) :
    (∃ ha hb, joins (m.utterances.getLast ha) (n.utterances.head hb) = false) ↔
      (m.speaker = .user → n.speaker = .user →
        (∃ s, m.content.getLast? = some (.text s)) ∧
          ∃ s, n.content.head? = some (.text s)) := by
  obtain ⟨before, last, hlast⟩ := List.eq_nil_or_concat m.content |>.resolve_left hm
  obtain ⟨first, after, hfirst⟩ := List.exists_cons_of_ne_nil hn
  simp [utterances, joins, hlast, hfirst, isMedia_eq_false_iff]

/-- Messages have the structure if and only if they are the runs of blocks that belong together. -/
theorem turns_iff_map_utterances (hus : ∀ u ∈ us, u.OfPart) :
    Turns us ms ↔ ms.map utterances = us.splitBy joins := by
  rw [eq_comm, List.splitBy_eq_iff]
  have hnil : [] ∉ ms.map utterances ↔ ∀ m ∈ ms, m.content ≠ [] := by
    simp [utterances]
  have hpart (hsaid : us = ms.flatMap utterances) (m : Message) (hm : m ∈ ms) :
      ∀ u ∈ m.utterances, u.OfPart := by
    intro u hu
    apply hus
    rw [hsaid]
    exact List.mem_flatMap.mpr ⟨m, hm, hu⟩
  have hborder (hfull : ∀ m ∈ ms, m.content ≠ []) := List.IsChain.iff_of_mem_imp
    fun m n hm hn => not_joins_border_iff (hfull m hm) (hfull n hn)
  constructor
  · intro h
    refine ⟨h.said.symm, hnil.mpr h.full, ?_, ?_⟩
    · rintro _ hmem
      obtain ⟨m, hm, rfl⟩ := List.mem_map.mp hmem
      exact (isChain_utterances_iff (h.full m hm) (hpart h.said.symm m hm)).mpr
        ⟨h.system m hm, h.user m hm⟩
    · rw [List.isChain_map]
      exact (hborder h.full).mpr h.border
  · rintro ⟨hsaid, hfull, hchain, hchains⟩
    rw [hnil] at hfull
    rw [List.isChain_map, hborder hfull] at hchains
    have hrun (m : Message) (hm : m ∈ ms) :=
      (isChain_utterances_iff (hfull m hm) (hpart hsaid m hm)).mp
        (hchain m.utterances (List.mem_map_of_mem hm))
    exact ⟨hsaid.symm, hfull, fun m hm => (hrun m hm).1, fun m hm => (hrun m hm).2, hchains⟩

theorem eq_of_utterances_eq {m n : Message} (hfull : m.content ≠ [])
    (h : m.utterances = n.utterances) : m = n := by
  obtain ⟨speaker, content⟩ := m
  obtain ⟨block, rest, rfl⟩ := List.exists_cons_of_ne_nil hfull
  obtain ⟨speaker', content'⟩ := n
  cases content' with
  | nil =>
      cases h
  | cons block' rest' =>
      obtain ⟨hhead, htail⟩ := List.cons.inj h
      obtain ⟨rfl, rfl⟩ := Prod.mk.inj hhead
      have hsays : Function.Injective fun block : Block => (speaker, block) :=
        fun _ _ heq => (Prod.mk.inj heq).2
      rw [List.map_injective_iff.mpr hsays htail]

theorem eq_of_map_utterances {ns : List Message} (hfull : ∀ m ∈ ms, m.content ≠ [])
    (h : ms.map utterances = ns.map utterances) : ms = ns := by
  induction ms generalizing ns with
  | nil =>
      simpa [eq_comm] using h
  | cons m rest ih =>
      cases ns with
      | nil =>
          simp at h
      | cons n others =>
          obtain ⟨hmn, hrest⟩ := List.cons.inj h
          rw [eq_of_utterances_eq (hfull m List.mem_cons_self) hmn,
            ih (fun m hm => hfull m (List.mem_cons_of_mem _ hm)) hrest]

/-- The messages of blocks are the only ones with the structure. -/
theorem turns_iff (hus : ∀ u ∈ us, u.OfPart) : Turns us ms ↔ ms = ofUtterances us := by
  have hmessages := map_utterances_ofUtterances us
  constructor
  · intro h
    refine eq_of_map_utterances h.full ?_
    rw [hmessages]
    exact (turns_iff_map_utterances hus).mp h
  · rintro rfl
    exact (turns_iff_map_utterances hus).mpr hmessages

end Structure

end Message

namespace Engine

variable {e : Engine} {t : Template} {values : Values} {o : Options}

theorem ofPart_of_mem_utterances {u : Utterance} (h : u ∈ utterances t values) : u.OfPart := by
  obtain ⟨p, _, hu⟩ := List.mem_filterMap.mp h
  exact (Part.utterance?_eq_some_iff.mp hu).ofPart

theorem buildRequest_of_silent {model : String}
    (hmodel : (o.model.or t.model).or e.defaultModel = some model)
    (hsilent : utterances t values = []) (now : Timestamp) (streaming : Bool) :
    e.buildRequest now t values o streaming = .error (.emptyRequest t.name) := by
  simp [buildRequest, hmodel, hsilent, Message.ofUtterances]

theorem exists_buildRequest {model : String}
    (hmodel : (o.model.or t.model).or e.defaultModel = some model)
    (hsaid : utterances t values ≠ []) (now : Timestamp) (streaming : Bool) :
    ∃ r, e.buildRequest now t values o streaming = .ok r := by
  obtain ⟨m, rest, hmessages⟩ :=
    List.exists_cons_of_ne_nil (mt Message.ofUtterances_eq_nil_iff.mp hsaid)
  simp [buildRequest, hmodel, hmessages]

/--
With a model to send it to, the request of a template cannot be built if and only if no part of the
template says anything.  Otherwise its messages say what the parts say, in their order, and are made
up of it turn by turn.
-/
theorem buildRequest_turns (hmodel : ((o.model.or t.model).or e.defaultModel).isSome = true)
    (now : Timestamp) (values : Values) (streaming : Bool) :
    let said := t.parts.filterMap (Part.utterance? values)
    (∀ (p : Part) (u : Utterance), p.utterance? values = some u ↔ p.Says values u) ∧
      (e.buildRequest now t values o streaming = .error (.emptyRequest t.name) ↔ said = []) ∧
      (said ≠ [] →
        ∃ r, e.buildRequest now t values o streaming = .ok r ∧
          Message.Turns said r.messages) := by
  intro said
  obtain ⟨model, hmodel⟩ := Option.isSome_iff_exists.mp hmodel
  have hrequest (h : said ≠ []) := exists_buildRequest hmodel h now streaming
  refine ⟨fun p u => Part.utterance?_eq_some_iff, ⟨?_, ?_⟩, ?_⟩
  · intro hempty
    by_contra h
    obtain ⟨r, hr⟩ := hrequest h
    rw [hempty] at hr
    cases hr
  · intro hsilent
    exact buildRequest_of_silent hmodel hsilent now streaming
  · intro h
    obtain ⟨r, hr⟩ := hrequest h
    refine ⟨r, hr, (Message.turns_iff fun u => ofPart_of_mem_utterances).mpr ?_⟩
    exact messages_of_buildRequest hr

/-- Pictures before and after a text, two texts in a row, and a blank one between them. -/
def album : Template :=
  .ofParts "album"
    [.media "a.png", .user "One.", .user " ", .user "Two:", .media "b.png", .system "Look."]
    (some "m")

theorem buildRequest_album :
    (((none : Option String).or album.model).or none).isSome = true ∧
      ∃ r, buildRequest ⟨.stalling, true, none⟩ .epoch album [] ⟨none, .empty⟩ false = .ok r ∧
        Message.Turns
          [(.user, .media "a.png"), (.user, .text "One."), (.user, .text "Two:"),
            (.user, .media "b.png"), (.system, .text "Look.")]
          r.messages := by
  have hsaid : album.parts.filterMap (Part.utterance? []) =
      [(.user, .media "a.png"), (.user, .text "One."), (.user, .text "Two:"),
        (.user, .media "b.png"), (.system, .text "Look.")] := by
    cbv
  obtain ⟨_, _, hrequest⟩ :=
    buildRequest_turns (e := ⟨.stalling, true, none⟩) (t := album) (o := ⟨none, .empty⟩)
      rfl .epoch [] false
  rw [hsaid] at hrequest
  exact ⟨rfl, hrequest (List.cons_ne_nil _ _)⟩

end Engine

end PromptBook

import PromptBook.Exchange.Codec
import PromptBook.Proofs.Template.RoundTrip
import Mathlib.Data.List.Permutation

/-!
# Requests that are written and read

A request that is written as JSON is read as it was, in whatever order the members of the objects
stand.  A block has the name of its kind under a key of its own, which may come before or after its
text.

**Results.**
* `Block.reads`, `Message.reads`, `Trace.reads`: the parts of a request.
* `Request.reads`: requests.
* `written_comes_back`: templates and requests.
-/

namespace PromptBook

open Document
open Json (Rearrangement Reordered)

variable {S : Json → Json → Prop}

section Parts

theorem Speaker.reads (hS : Rearrangement S) (s : Speaker) :
    Reads S Speaker.ofDocument (.string s.word) (Eq s) := by
  intro y hy
  obtain rfl := hS.plain rfl hy
  refine ⟨s, ?_, rfl⟩
  cases s <;> rfl

/-- An object of two texts, in either order. -/
theorem eq_of_texts (hS : Rearrangement S) {key key' s s' : String} {y : Json}
    (hy : S (.object [(key, .string s), (key', .string s')]) y) :
    y = .object [(key, .string s), (key', .string s')] ∨
      y = .object [(key', .string s'), (key, .string s)] := by
  obtain ⟨between, members, rfl, hsame, hperm⟩ := hS.object hy
  obtain ⟨⟨_, _⟩, _, ⟨rfl, htext⟩, hrest, rfl⟩ := List.forall₂_cons_left_iff.mp hsame
  obtain ⟨⟨_, _⟩, _, ⟨rfl, htext'⟩, hnil, rfl⟩ := List.forall₂_cons_left_iff.mp hrest
  obtain rfl := List.forall₂_nil_left_iff.mp hnil
  obtain rfl := hS.plain rfl htext
  obtain rfl := hS.plain rfl htext'
  exact (List.pair_perm.mp hperm).imp (congrArg Json.object) (congrArg Json.object)

theorem Block.reads (hS : Rearrangement S) (b : Block) :
    Reads S Block.ofDocument b.toJson (Eq b) := by
  intro y hy
  refine ⟨b, ?_, rfl⟩
  cases b with
  | text s => rcases eq_of_texts hS hy with rfl | rfl <;> rfl
  | media s => rcases eq_of_texts hS hy with rfl | rfl <;> rfl

theorem Message.reads (hS : Rearrangement S) (m : Message) :
    Reads S Message.ofDocument m.toJson (Eq m) := by
  have hspeaker := Speaker.reads hS m.speaker
  have hcontent := reads_list_eq hS fun b (_ : b ∈ m.content) => Block.reads hS b
  intro y hy
  obtain ⟨r, hr, hthere⟩ := reads_record hS "struct Message" false (by decide)
    (.cons (.of_reads hspeaker) <| .cons (.of_reads hcontent) .nil) y hy
  simp only [List.forall_mem_cons] at hthere
  obtain ⟨hatRole, hatContent, _⟩ := hthere
  refine ⟨m, ?_, rfl⟩
  simp only [Message.ofDocument, hr, required_eq hatRole hspeaker,
    required_eq hatContent hcontent, bind, Except.bind]

theorem Trace.reads (hS : Rearrangement S) {t : Trace} (h : t.timestamp.Valid) :
    Reads S Trace.ofDocument t.toJson (Eq t) := by
  have htemplate := reads_string hS t.template
  have hversion := reads_string hS t.version
  have htimestamp := Timestamp.reads hS h
  have hstreaming := reads_boolean hS t.streaming
  intro y hy
  obtain ⟨r, hr, hthere⟩ := reads_record hS "struct TraceMetadata" false (by decide)
    (.cons (.of_reads htemplate) <| .cons (.of_reads hversion) <|
      .cons (.of_reads htimestamp) <| .cons (.of_reads hstreaming) .nil) y hy
  simp only [List.forall_mem_cons] at hthere
  obtain ⟨hatTemplate, hatVersion, hatTimestamp, hatStreaming, _⟩ := hthere
  refine ⟨t, ?_, rfl⟩
  simp only [Trace.ofDocument, hr, required_eq hatTemplate htemplate,
    required_eq hatVersion hversion, required_eq hatTimestamp htimestamp,
    required_eq hatStreaming hstreaming, bind, Except.bind]

end Parts

namespace Request

/-- A request as it can be held: the numbers of its settings are in range, and its timestamp is of the
calendar. -/
structure WellFormed (r : Request) : Prop where
  settings : r.settings.InRange
  timestamp : r.trace.timestamp.Valid

theorem reads (hS : Rearrangement S) {r : Request} (h : r.WellFormed) :
    Reads S Request.ofDocument r.toJson (Eq r) := by
  have hmodel := reads_string hS r.model
  have hmessages := reads_list_eq hS fun m (_ : m ∈ r.messages) => Message.reads hS m
  have hsettings := Settings.reads hS h.settings
  have htrace := Trace.reads hS h.timestamp
  intro y hy
  obtain ⟨read, hread, hthere⟩ := reads_record hS "struct GenerationRequest" false (by decide)
    (.cons (.of_reads hmodel) <| .cons (.of_reads hmessages) <|
      .cons (.of_reads hsettings) <| .cons (.of_reads htrace) .nil) y hy
  simp only [List.forall_mem_cons] at hthere
  obtain ⟨hatModel, hatMessages, hatConfig, hatTrace, _⟩ := hthere
  refine ⟨r, ?_, rfl⟩
  simp only [Request.ofDocument, hread, required_eq hatModel hmodel,
    required_eq hatMessages hmessages, required_eq hatConfig hsettings,
    required_eq hatTrace htrace, bind, Except.bind]

end Request

/--
A template that is written comes back as it was.  If the members of its objects are put in any other
order, it still does, once the values that are not looked into are in order, as they are when a text is
read.  A request that is written comes back as it was in whatever order the members stand.
-/
theorem written_comes_back :
    (∀ t : Template, t.WellFormed →
      Template.ofDocument t.toJson = .ok t ∧
        ∀ y, Reordered t.toJson y → ∃ t', Template.ofDocument y = .ok t' ∧ t'.sorted = t) ∧
      ∀ r : Request, r.WellFormed →
        Request.ofDocument r.toJson = .ok r ∧
          ∀ y, Reordered r.toJson y → Request.ofDocument y = .ok r := by
  constructor
  · intro t h
    exact ⟨Template.ofDocument_toJson h, fun y hy => Template.ofDocument_reordered h hy⟩
  · intro r h
    have hread : ∀ y, Reordered r.toJson y → Request.ofDocument y = .ok r := by
      intro y hy
      obtain ⟨_, hread, rfl⟩ := Request.reads Rearrangement.reordered h y hy
      exact hread
    exact ⟨hread _ (.refl _), hread⟩

section Letter

/-- A letter with parts of all kinds, settings that are partly set, and a default with members. -/
def sealedLetter : Template where
  name := "letter"
  description := ""
  version := "1.0.0"
  category := some "mail"
  tags := ["formal"]
  model := none
  settings := ⟨some 100, some (.finite false 12582912 (-24)), none, some 3, []⟩
  parts := [.system "Be kind.", .user "Dear Ada,", .media "a.png", ⟨.other "Seal", "", none⟩]
  declarations := [⟨"name", "string", true, some (.object [("a", .null), ("b", .bool true)]), ""⟩]
  metadata := [("dialect", .string "legacy"), ("pages", .nat 1)]
  createdAt := .epoch
  updatedAt := ⟨2024, 2, 29, 12, 30, 59, 500000000⟩

/-- A request with text and media. -/
def sealedRequest : Request :=
  ⟨"m", [⟨.user, [.text "Dear Ada", .media "a.png"]⟩], sealedLetter.settings,
    ⟨"letter", "1.0.0", .epoch, true⟩⟩

/-- An object with its members from the last to the first. -/
def Json.reversed : Json → Json
  | .object members => .object members.reverse
  | x => x

theorem Json.reordered_reversed {members : List (String × Json)}
    (hnames : (members.map Prod.fst).Nodup) : Reordered (.object members) (reversed (.object members)) :=
  .members hnames members.reverse_perm.symm

theorem inRange_sealedLetter : sealedLetter.settings.InRange where
  maxOutputTokens := by
    rintro _ ⟨⟩
    decide
  temperature := by
    rintro _ ⟨⟩
    simp [Number.Format.Holds, Number.single]
  topP := nofun
  topK := by
    rintro _ ⟨⟩
    decide

theorem wellFormed_sealedLetter : sealedLetter.WellFormed where
  settings := inRange_sealedLetter
  kinds := by
    simp only [sealedLetter, List.forall_mem_cons]
    refine ⟨⟨"system", ?_⟩, ⟨"user", ?_⟩, ⟨"MEDIA", ?_⟩, ⟨"Seal", ?_⟩, nofun⟩ <;> decide
  defaults := by
    simp [sealedLetter]
  metadata := by
    simp only [sealedLetter, Dictionary.Ordered]
    decide
  objects := rfl
  createdAt := by
    constructor <;> decide
  updatedAt := by
    constructor <;> decide

theorem written_comes_back_letter :
    sealedLetter.WellFormed ∧ sealedRequest.WellFormed ∧
      Template.ofDocument sealedLetter.toJson = .ok sealedLetter ∧
      (Reordered sealedLetter.toJson sealedLetter.toJson.reversed ∧
        ∃ t', Template.ofDocument sealedLetter.toJson.reversed = .ok t' ∧
          t'.sorted = sealedLetter) ∧
      Reordered sealedRequest.toJson sealedRequest.toJson.reversed ∧
      Request.ofDocument sealedRequest.toJson.reversed = .ok sealedRequest := by
  have hletter : sealedLetter.WellFormed := wellFormed_sealedLetter
  have hrequest : sealedRequest.WellFormed := ⟨hletter.settings, hletter.createdAt⟩
  have hturned : Reordered sealedLetter.toJson sealedLetter.toJson.reversed :=
    Json.reordered_reversed (by decide)
  have hturned' : Reordered sealedRequest.toJson sealedRequest.toJson.reversed :=
    Json.reordered_reversed (by decide)
  obtain ⟨hread, hreadTurned⟩ := written_comes_back.1 sealedLetter hletter
  exact ⟨hletter, hrequest, hread, ⟨hturned, hreadTurned _ hturned⟩, hturned',
    (written_comes_back.2 sealedRequest hrequest).2 _ hturned'⟩

end Letter

end PromptBook

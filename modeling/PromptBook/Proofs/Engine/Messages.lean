import PromptBook.Engine

/-!
# The messages of a request

Blocks are put into messages one after the other.  However they are grouped, the messages say
exactly these blocks, in their order and each by its speaker.

**Results.**
* `utterances_ofUtterances`: read out, the messages of blocks are these blocks.
* `messages_of_buildRequest`, `mem_content_iff`: the messages of a request, and their blocks.
-/

namespace PromptBook

/-- A template with a name, some parts and perhaps a model to send them to.  Otherwise it is what a
legacy document makes of sections alone. -/
def Template.ofParts (name : String) (parts : List Part) (model : Option String) : Template where
  name := name
  description := ""
  version := "1.0.0"
  category := none
  tags := []
  model := model
  settings := .empty
  parts := parts
  declarations := []
  metadata := [("dialect", .string "legacy")]
  createdAt := .epoch
  updatedAt := .epoch

/-- A request with one text of the user, for a template with a name and without settings. -/
def Request.ofText (name text : String) : Request :=
  ⟨"m", [⟨.user, [.text text]⟩], .empty, ⟨name, "1.0.0", .epoch, false⟩⟩

namespace Message

variable {m : Message} {u : Utterance}

/-- What a message says, block by block. -/
def utterances (m : Message) : List Utterance :=
  m.content.map fun block => (m.speaker, block)

/-- Only blocks of its own speaker go on with a message. -/
theorem speaker_of_takes (h : m.takes u = true) : m.speaker = u.1 := by
  simp only [takes, Bool.and_eq_true, decide_eq_true_eq] at h
  obtain ⟨⟨hm, hu⟩, _⟩ := h
  rw [hm, hu]

/-- One more block is said after all others. -/
theorem utterances_addTo (ms : List Message) (u : Utterance) :
    (addTo ms u).flatMap utterances = ms.flatMap utterances ++ [u] := by
  fun_induction addTo ms u with
  | case1 u =>
      rfl
  | case2 m u htakes =>
      have hspeaker := speaker_of_takes htakes
      simp [utterances, hspeaker]
  | case3 m u htakes =>
      simp [utterances]
  | case4 m u rest hrest ih =>
      simp [ih]

/-- The messages of blocks say these blocks. -/
theorem utterances_ofUtterances (us : List Utterance) :
    (ofUtterances us).flatMap utterances = us := by
  have hfold : ∀ ms : List Message,
      (us.foldl addTo ms).flatMap utterances = ms.flatMap utterances ++ us := by
    induction us with
    | nil =>
        simp
    | cons u us ih =>
        intro ms
        rw [List.foldl_cons, ih, utterances_addTo, List.append_assoc]
        rfl
  exact hfold []

end Message

namespace Engine

variable {e : Engine} {now : Timestamp} {t : Template} {values : Values} {o : Options}
  {streaming : Bool} {r : Request}

/-- The messages of a request are those of what its template says. -/
theorem messages_of_buildRequest (h : e.buildRequest now t values o streaming = .ok r) :
    r.messages = Message.ofUtterances (utterances t values) := by
  unfold buildRequest at h
  split at h
  · cases h
  · split at h
    · cases h
    · cases h
      rfl

/-- The blocks of a request. -/
theorem mem_content_iff (h : e.buildRequest now t values o streaming = .ok r) {block : Block} :
    (∃ m ∈ r.messages, block ∈ m.content) ↔ ∃ u ∈ utterances t values, u.2 = block := by
  have hsaid : r.messages.flatMap Message.utterances = utterances t values := by
    rw [messages_of_buildRequest h, Message.utterances_ofUtterances]
  rw [← hsaid]
  constructor
  · rintro ⟨m, hm, hblock⟩
    exact ⟨(m.speaker, block),
      List.mem_flatMap.mpr ⟨m, hm, List.mem_map.mpr ⟨block, hblock, rfl⟩⟩, rfl⟩
  · rintro ⟨u, hu, rfl⟩
    obtain ⟨m, hm, hu⟩ := List.mem_flatMap.mp hu
    obtain ⟨block, hblock, rfl⟩ := List.mem_map.mp hu
    exact ⟨m, hm, hblock⟩

end Engine

end PromptBook

import PromptBook.Exchange.Backend
import PromptBook.Proofs.Text.Words

/-!
# Echoes word by word

An echo that comes piece by piece gives a word at a time, each but the first with a space before it.
So the pieces put together are the words of the complete echo with single spaces between them.  The
last piece, and no other, says that it is the last and what the exchange took.

**Results.**
* `join_wordPieces`: the pieces of a list of words.
* `text_echoScript`: the pieces of an echo.
* `exists_last_echoChunks`: the piece that is the last.
* `echo_agrees_with_itself`: an echo that comes piece by piece, and the same echo complete.
-/

namespace PromptBook

@[simp] theorem Chunk.text_ofText (text : String) (done : Bool) :
    (Chunk.ofText text done).text = text := by
  simp [Chunk.text, Chunk.ofText, Block.text?]

namespace Backend

/-- To mark the last piece changes no text. -/
theorem join_echoChunks (usage : Usage) (pieces : List String) :
    String.join ((echoChunks usage pieces).map Chunk.text) = String.join pieces := by
  fun_induction echoChunks usage pieces with
  | case1 => simp [Chunk.text]
  | case2 piece => simp [Chunk.text, Block.text?]
  | case3 piece rest _ ih =>
      rw [List.map_cons, String.join_cons, Chunk.text_ofText, ih, String.join_cons]

theorem join_wordPieces (words : List (List Char)) :
    String.join (wordPieces words) = " ".intercalate (words.map String.ofList) := by
  cases words with
  | nil =>
      simp [wordPieces]
  | cons word rest =>
      simp only [wordPieces, List.map_cons, String.join_cons]
      induction rest generalizing word with
      | nil =>
          simp
      | cons next rest ih =>
          rw [List.map_cons, String.join_cons, String.ofList_cons, List.map_cons,
            String.intercalate_cons_cons, ← ih next, String.append_assoc, String.append_assoc]
          rfl

/-- The pieces of an echo are the words of its text with single spaces between them. -/
theorem text_echoScript (opening : Option String) (r : Request) :
    String.join ((echoScript opening r).chunks.map Chunk.text) =
      " ".intercalate ((Text.words (echoText opening r).toList).map String.ofList) := by
  rw [echoScript, join_echoChunks, join_wordPieces]

section Marks

variable {usage : Usage} {pieces : List String} {opening : Option String} {r : Request}

/-- The last chunk is marked, and no other. -/
theorem exists_last_echoChunks (usage : Usage) (pieces : List String) :
    ∃ before last, echoChunks usage pieces = before ++ [last] ∧
      (last.done = true ∧ last.usage = some usage) ∧
      ∀ chunk ∈ before, chunk.done = false ∧ chunk.usage = none := by
  fun_induction echoChunks usage pieces with
  | case1 | case2 piece =>
      exact ⟨[], _, rfl, ⟨rfl, rfl⟩, by simp⟩
  | case3 piece rest _ ih =>
      obtain ⟨before, last, hchunks, hlast, hbefore⟩ := ih
      refine ⟨.ofText piece false :: before, last, by rw [hchunks]; rfl, hlast, ?_⟩
      exact List.forall_mem_cons.mpr ⟨⟨rfl, rfl⟩, hbefore⟩

theorem speaker_of_mem_echoChunks {chunk : Chunk} (h : chunk ∈ echoChunks usage pieces) :
    chunk.speaker = .model := by
  fun_induction echoChunks usage pieces with
  | case1 | case2 piece =>
      obtain rfl := List.mem_singleton.mp h
      rfl
  | case3 piece rest _ ih =>
      rcases List.mem_cons.mp h with rfl | h
      · rfl
      · exact ih h

/-- Only an echo of nothing has a chunk without content, and that is its only chunk. -/
theorem silent_echoChunks_iff :
    (∃ chunk, echoChunks usage pieces = [chunk] ∧ chunk.content = []) ↔ pieces = [] := by
  fun_cases echoChunks usage pieces with
  | case1 =>
      simp
  | case2 piece =>
      simp
  | case3 piece rest hne =>
      simp [Chunk.ofText]

theorem wordPieces_eq_nil_iff {words : List (List Char)} :
    wordPieces words = [] ↔ words = [] := by
  cases words <;> simp [wordPieces]

/-- What an echo of some words says is empty only if there are none. -/
theorem join_wordPieces_eq_empty_iff {words : List (List Char)} (h : ∀ word ∈ words, word ≠ []) :
    String.join (wordPieces words) = "" ↔ words = [] := by
  cases words with
  | nil =>
      simp [wordPieces]
  | cons word rest =>
      have hword : word ≠ [] := h word List.mem_cons_self
      simp [wordPieces, hword]

theorem text_echoResponse (opening : Option String) (r : Request) :
    (echoResponse opening r).message.text = echoText opening r := by
  simp [echoResponse, Message.text, Block.text?]

/--
An echo that comes piece by piece, beside the same echo complete.  There is a last chunk, and it
alone says that it is the last and what the exchange took, which is what the complete echo says.  All
chunks come from the model.  Put together, they are the words of the complete echo with single
spaces between them: nothing if its text is blank, and exactly then there is one chunk without
content.
-/
theorem echo_agrees_with_itself (opening : Option String) (r : Request) :
    ∃ response script, (echo opening).respond r = .answer response ∧
      (echo opening).stream r = .answer script ∧ script.ending = .finished ∧
      (∃ before last, script.chunks = before ++ [last] ∧
        (last.done = true ∧ last.usage = some response.usage) ∧
        ∀ chunk ∈ before, chunk.done = false ∧ chunk.usage = none) ∧
      (∀ chunk ∈ script.chunks, chunk.speaker = .model) ∧
      (∃ words, Text.SplitsInto response.message.text.toList words ∧
        String.join (script.chunks.map Chunk.text) =
          " ".intercalate (words.map String.ofList)) ∧
      (String.join (script.chunks.map Chunk.text) = "" ↔
        Text.isBlankText response.message.text = true) ∧
      ((∃ chunk, script.chunks = [chunk] ∧ chunk.content = []) ↔
        Text.isBlankText response.message.text = true) := by
  have hblank : Text.words (echoText opening r).toList = [] ↔
      Text.isBlankText (echoText opening r) = true := Text.words_eq_nil_iff
  refine ⟨echoResponse opening r, echoScript opening r, rfl, rfl, rfl,
    exists_last_echoChunks _ _, fun _ => speaker_of_mem_echoChunks, ?_, ?_, ?_⟩
  · rw [text_echoResponse]
    exact ⟨_, Text.splitsInto_iff.mpr rfl, text_echoScript opening r⟩
  · rw [text_echoResponse, echoScript, join_echoChunks, ← hblank]
    exact join_wordPieces_eq_empty_iff fun _ => Text.ne_nil_of_mem_words
  · rw [text_echoResponse, echoScript, silent_echoChunks_iff, wordPieces_eq_nil_iff, hblank]

end Marks

end Backend

end PromptBook

import PromptBook.Proofs.Engine.Messages
import PromptBook.Proofs.Substitution.Exposure

/-!
# Placeholders in requests

When the blocks of a request are free of placeholder tokens.  Substitution alone does not see to
that: a request is free of them if and only if no source in its template lets one through.

**Results.**
* `noToken_iff`: the blocks of a request hold no token exactly if no source exposes one.
* `token_in_letter`: a template whose braces close up around an empty token.
-/

namespace PromptBook

open Substitution (HasToken Exposes substitute spoken hasToken_spoken_iff)

section Sources

/-- The text of a block, or its reference. -/
def Block.written : Block → String
  | text s => s
  | media s => s

/-- The text of a part that is sent with its placeholders replaced. -/
def Part.sent? (p : Part) : Option String :=
  match p.kind with
  | .system => some p.content
  | .user => some p.content
  | .media => some (p.reference.getD "")
  | .other _ => none

variable {values : Values}

theorem hasToken_substitute_iff {source : String} :
    HasToken (substitute values source).toList ↔
      Exposes values (Placeholder.pieces source.toList) := by
  rw [substitute, String.toList_ofList]
  exact hasToken_spoken_iff

/-- A text that is left out for being blank has no token. -/
theorem not_hasToken_of_isBlankText {text : String} (h : Text.isBlankText text = true) :
    ¬HasToken text.toList :=
  fun htoken => htoken.not_braceFree (.of_isBlankText h)

theorem hasToken_spoken_part_iff {speaker : Speaker} {block : String → Block} {source : String}
    (hblock : ∀ s, (block s).written = s) :
    (∃ u, Part.utterance?.spoken values speaker block source = some u ∧
        HasToken u.2.written.toList) ↔
      HasToken (substitute values source).toList := by
  unfold Part.utterance?.spoken
  cases hblank : Text.isBlankText (substitute values source) with
  | true =>
      simp [hblank, not_hasToken_of_isBlankText hblank]
  | false =>
      simp [hblank, hblock]

/-- What a part says holds a token if and only if its source exposes one. -/
theorem hasToken_utterance?_iff (p : Part) :
    (∃ u, p.utterance? values = some u ∧ HasToken u.2.written.toList) ↔
      ∃ source, p.sent? = some source ∧ Exposes values (Placeholder.pieces source.toList) := by
  have htext : ∀ s, (Block.text s).written = s := fun _ => rfl
  have hmedia : ∀ s, (Block.media s).written = s := fun _ => rfl
  unfold Part.utterance? Part.sent?
  cases p.kind with
  | system =>
      simp [hasToken_spoken_part_iff htext, hasToken_substitute_iff]
  | user =>
      simp [hasToken_spoken_part_iff htext, hasToken_substitute_iff]
  | media =>
      simp [hasToken_spoken_part_iff hmedia, hasToken_substitute_iff]
  | other word =>
      simp

end Sources

namespace Engine

variable {e : Engine} {now : Timestamp} {t : Template} {values : Values} {o : Options}
  {streaming : Bool} {r : Request}

/--
The texts and references of a request hold no placeholder token if and only if no source of its
template exposes one, be it that braces of the source close up to a token or that a value smuggles a
brace in.
-/
theorem noToken_iff (h : e.buildRequest now t values o streaming = .ok r) :
    (∀ m ∈ r.messages, ∀ block ∈ m.content, ¬HasToken block.written.toList) ↔
      ∀ p ∈ t.parts, ∀ source, p.sent? = some source →
        ¬Exposes values (Placeholder.pieces source.toList) := by
  constructor
  · intro hnone p hp source hsource hexposes
    obtain ⟨u, hu, htoken⟩ := (hasToken_utterance?_iff p).mpr ⟨source, hsource, hexposes⟩
    have hsaid : u ∈ utterances t values := List.mem_filterMap.mpr ⟨p, hp, hu⟩
    obtain ⟨m, hm, hblock⟩ := (mem_content_iff h).mpr ⟨u, hsaid, rfl⟩
    exact hnone m hm u.2 hblock htoken
  · intro hnone m hm block hblock htoken
    obtain ⟨u, hsaid, rfl⟩ := (mem_content_iff h).mp ⟨m, hm, hblock⟩
    obtain ⟨p, hp, hu⟩ := List.mem_filterMap.mp hsaid
    obtain ⟨source, hsource, hexposes⟩ := (hasToken_utterance?_iff p).mp ⟨u, hu, htoken⟩
    exact hnone p hp source hsource hexposes

/-- A letter to whoever the values name. -/
def letter (content : String) : Template :=
  .ofParts "letter" [.user content] (some "m")

/-- The name of whom a letter goes to. -/
def addressee : Values := [("name", .string "Ada")]

/-- The request of a letter. -/
def letterRequest (text : String) : Request :=
  .ofText "letter" text

theorem buildRequest_letter {content text : String} (h : substitute addressee content = text)
    (hblank : Text.isBlankText text = false) :
    buildRequest ⟨.stalling, false, none⟩ .epoch (letter content) addressee ⟨none, .empty⟩ false =
      .ok (letterRequest text) := by
  have hsaid : utterances (letter content) addressee = [(.user, .text text)] := by
    simp [utterances, letter, Template.ofParts, Part.utterance?, Part.utterance?.spoken, Part.user,
      h, hblank]
  unfold buildRequest
  rw [hsaid]
  rfl

/-- A source with one token, and no brace outside it. -/
def greeting : String := "Dear \x7b\x7bname\x7d\x7d,"

/-- A source with an empty token between braces. -/
def nestedGreeting : String := "Dear \x7b\x7b\x7b\x7b\x7d\x7dname\x7d\x7d,"

theorem noToken_letter :
    buildRequest ⟨.stalling, false, none⟩ .epoch (letter greeting) addressee ⟨none, .empty⟩ false =
        .ok (letterRequest "Dear Ada,") ∧
      ∀ m ∈ (letterRequest "Dear Ada,").messages, ∀ block ∈ m.content,
        ¬HasToken block.written.toList := by
  have hpieces : Placeholder.pieces greeting.toList =
      "Dear ".toList.map .char ++ [.token "name".toList, .char ','] := by
    cbv
  have hsubstitute : substitute addressee greeting = "Dear Ada," := by
    rw [substitute, hpieces]
    decide
  have hfree : Placeholder.BraceFree (spoken addressee (Placeholder.pieces greeting.toList)) := by
    rw [hpieces]
    decide
  have hbuilt := buildRequest_letter hsubstitute (by decide)
  refine ⟨hbuilt, (noToken_iff hbuilt).mpr ?_⟩
  intro p hp source hsource
  obtain rfl : p = .user greeting := List.mem_singleton.mp hp
  cases hsource
  exact Substitution.not_exposes_of_braceFree hfree

/-- The empty token goes, and the braces around it close up to a token. -/
theorem token_in_letter :
    ∃ r, buildRequest ⟨.stalling, false, none⟩ .epoch (letter nestedGreeting) addressee
        ⟨none, .empty⟩ false = .ok r ∧
      ¬∀ m ∈ r.messages, ∀ block ∈ m.content, ¬HasToken block.written.toList := by
  have hpieces : Placeholder.pieces nestedGreeting.toList =
      "Dear \x7b\x7b".toList.map .char ++ .token [] :: "name\x7d\x7d,".toList.map .char := by
    cbv
  have hsubstitute : substitute addressee nestedGreeting = "Dear \x7b\x7bname\x7d\x7d," := by
    rw [substitute, hpieces]
    decide
  refine ⟨_, buildRequest_letter hsubstitute (by decide), ?_⟩
  intro hnone
  refine hnone _ (List.mem_singleton.mpr rfl) _ (List.mem_singleton.mpr rfl) ?_
  refine ⟨"Dear ".toList, "name".toList, ",".toList, rfl, ?_⟩
  decide

end Engine

end PromptBook

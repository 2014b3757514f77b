import PromptBook.Proofs.Engine.Turns
import PromptBook.Proofs.Legacy.Validity
import PromptBook.Proofs.Substitution.Links

/-!
# Links in requests

Where the reference of every media part is one token, what is sent as a reference is the text of a
value in the form in which it is put in, and so no link of an unsafe scheme.  The templates of
legacy documents are of this kind.

**Results.**
* `not_unsafeLink_of_mem_content`: the references of a request.
* `Legacy.mediaByToken_of_source`: the references of legacy documents are tokens.
* `unsafe_links_dropped`: what becomes of a value, and of the references of a request.
-/

namespace PromptBook

open Placeholder (BraceFree Piece)
open Substitution (substitute UnsafeLink valueText escape)

section References

/-- The reference of every media part of a template is one token. -/
def Template.MediaByToken (t : Template) : Prop :=
  ∀ p ∈ t.parts, p.kind = .media → ∀ reference, p.reference = some reference →
    ∃ inner, BraceFree inner ∧ reference.toList = '{' :: '{' :: (inner ++ ['}', '}'])

variable {values : Values} {p : Part} {t : Template} {inner : List Char} {reference : String}
  {speaker : Speaker}

theorem Substitution.toList_substitute_token (h : BraceFree inner)
    (htoken : reference.toList = '{' :: '{' :: (inner ++ ['}', '}'])) (values : Values) :
    (substitute values reference).toList = replacement values (.token inner) := by
  rw [toList_substitute, htoken, Placeholder.pieces_of_braceFree h]
  simp

/-- Only media parts say media, and they say what their reference becomes. -/
theorem Part.Says.exists_reference (h : p.Says values (speaker, .media reference)) :
    p.kind = .media ∧
      ∃ source, p.reference = some source ∧ substitute values source = reference := by
  cases h with
  | media hkind hreference hfull =>
      exact ⟨hkind, _, hreference, rfl⟩

namespace Engine

variable {e : Engine} {now : Timestamp} {o : Options} {streaming : Bool} {r : Request}

/-- No reference of a request is a link of an unsafe scheme if the references of its template are
tokens. -/
theorem not_unsafeLink_of_mem_content (ht : t.MediaByToken)
    (h : e.buildRequest now t values o streaming = .ok r) {m : Message} (hm : m ∈ r.messages)
    (hblock : Block.media reference ∈ m.content) : ¬UnsafeLink reference.toList := by
  obtain ⟨⟨speaker, block⟩, hsaid, heq⟩ := (mem_content_iff h).mp ⟨m, hm, hblock⟩
  cases heq
  obtain ⟨p, hp, hu⟩ := List.mem_filterMap.mp hsaid
  obtain ⟨hkind, source, hsource, rfl⟩ := (Part.utterance?_eq_some_iff.mp hu).exists_reference
  obtain ⟨inner, hfree, htoken⟩ := ht p hp hkind source hsource
  rw [Substitution.toList_substitute_token hfree htoken]
  exact (Substitution.becomes_replacement values (.token inner)).not_unsafeLink

end Engine

end References

section Documents

variable {now : Timestamp} {source text : String} {stem : Option String} {t : Template}

/-- The media parts of a legacy document refer to its variables, each by a token. -/
theorem Legacy.mediaByToken_of_source (h : Dialect.ofText text = .legacy)
    (hread : Source.read now source stem text = .ok t) : t.MediaByToken := by
  obtain ⟨ps, -, hparts, -⟩ := passages_of_source h hread
  intro p hp hkind reference hreference
  rw [hparts] at hp
  rcases List.mem_append.mp hp with hp | hp
  · -- The parts of the sections are texts.
    obtain ⟨passage, -, rfl⟩ := List.mem_map.mp hp
    cases hreference
  · obtain ⟨name, hname, rfl⟩ := List.mem_map.mp hp
    cases hreference
    refine ⟨name.toList, .of_isIdentifier (isIdentifierText_of_mem_distinct hname), ?_⟩
    rw [Placeholder.token, String.toList_ofList]

end Documents

/--
A token that refers to a variable is replaced by nothing if the text of its value is a link of an
unsafe scheme, and by the escaped text otherwise.  So no reference of a request is a link of an
unsafe scheme if the references of its template are tokens, as those of every legacy document are.
-/
theorem unsafe_links_dropped :
    (∀ (values : Values) (before inner after : List Char) (name : String) (value : Json),
        (Piece.token inner).Names name → values.get? name = some value →
          (substitute values
              (String.ofList (before ++ '{' :: '{' :: (inner ++ '}' :: '}' :: after)))).toList =
            (substitute values (String.ofList before)).toList ++
              ((if UnsafeLink (valueText value).toList then []
                else escape (valueText value).toList) ++
                (substitute values (String.ofList after)).toList)) ∧
      (∀ (e : Engine) (now : Timestamp) (t : Template) (values : Values) (o : Options)
          (streaming : Bool) (r : Request), t.MediaByToken →
          e.buildRequest now t values o streaming = .ok r →
            ∀ m ∈ r.messages, ∀ url, Block.media url ∈ m.content → ¬UnsafeLink url.toList) ∧
      ∀ (now : Timestamp) (source : String) (stem : Option String) (text : String) (t : Template),
        Dialect.ofText text = .legacy → Source.read now source stem text = .ok t →
          t.MediaByToken := by
  refine ⟨?_, ?_, ?_⟩
  · intro values before inner after name value hname hvalue
    rw [Substitution.substitute_around (Substitution.braceFree_of_names hname),
      Substitution.replacement_of_names hname, hvalue, Option.map_some, Option.getD_some,
      Substitution.sanitized_eq]
  · intro e now t values o streaming r ht hbuilt m hm url hurl
    exact Engine.not_unsafeLink_of_mem_content ht hbuilt hm hurl
  · intro now source stem text t hlegacy hread
    exact Legacy.mediaByToken_of_source hlegacy hread

/-- A document with two pictures and nothing else. -/
def pictures : String :=
  "\x7b\x7brole \"user\"\x7d\x7d\x7b\x7bmedia url=photo\x7d\x7d\x7b\x7bmedia url=plan\x7d\x7d"

/-- A script in disguise, and a link with markup. -/
def pictureLinks : Values :=
  [("photo", .string " Java\tScript:alert(1)"), ("plan", .string "https://plan?at=<here>")]

/-- The link that is let through. -/
def planLink : String := "https://plan?at=&lt;here&gt;"

theorem unsafe_links_dropped_pictures :
    ((Piece.token "photo".toList).Names "photo" ∧
        pictureLinks.get? "photo" = some (.string " Java\tScript:alert(1)") ∧
        substitute pictureLinks (Placeholder.token "photo") = "") ∧
      Dialect.ofText pictures = .legacy ∧
      ∃ t, Source.read .epoch "inline" none pictures = .ok t ∧ t.MediaByToken ∧
        ∃ r, Engine.buildRequest ⟨.stalling, false, some "m"⟩ .epoch t pictureLinks
            ⟨none, .empty⟩ false = .ok r ∧
          r.messages = [⟨.user, [.media planLink]⟩] ∧
          ∀ m ∈ r.messages, ∀ url, Block.media url ∈ m.content → ¬UnsafeLink url.toList := by
  obtain ⟨hvalues, hrequests, hdocuments⟩ := unsafe_links_dropped
  have hempty : substitute pictureLinks "" = "" := by
    cbv
  have hnames (name : String) (h : name ∈ ["photo", "plan"]) :
      (Piece.token name.toList).Names name := by
    refine ⟨name.toList, rfl, ?_⟩
    revert name
    decide
  have htoken (name : String) (value : Json) (text : String)
      (hname : (Piece.token name.toList).Names name)
      (hvalue : pictureLinks.get? name = some value)
      (htext : (if UnsafeLink (valueText value).toList then []
        else escape (valueText value).toList) = text.toList) :
      substitute pictureLinks (Placeholder.token name) = text := by
    have h := hvalues pictureLinks [] name.toList [] name value hname hvalue
    rw [htext, String.ofList_nil, hempty] at h
    exact String.toList_inj.mp (h.trans (by simp))
  have hphoto : substitute pictureLinks (Placeholder.token "photo") = "" :=
    htoken "photo" _ "" (hnames "photo" (by simp)) rfl (by decide)
  have hplan : substitute pictureLinks (Placeholder.token "plan") = planLink :=
    htoken "plan" _ planLink (hnames "plan" (by simp)) rfl (by decide)
  have hlegacy : Dialect.ofText pictures = .legacy := by
    decide
  obtain ⟨t, hread, hmodel, hparts⟩ :
      ∃ t, Source.read .epoch "inline" none pictures = .ok t ∧ t.model = none ∧
        t.parts = [Part.user "", Legacy.mediaPart "photo", Legacy.mediaPart "plan"] :=
    ⟨_, rfl, rfl, rfl⟩
  have ht := hdocuments _ _ _ _ _ hlegacy hread
  have hblank : Text.isBlankText "" = true := by
    decide
  have hfull : Text.isBlankText planLink = false := by
    decide
  have hsaid : Engine.utterances t pictureLinks = [(.user, .media planLink)] := by
    rw [Engine.utterances, hparts]
    simp [Part.utterance?, Part.utterance?.spoken, Part.user, Legacy.mediaPart, Part.media, hempty,
      hphoto, hplan, hblank, hfull]
  have hmodel' : (((none : Option String).or t.model).or (some "m")) = some "m" := by
    rw [hmodel]
    rfl
  obtain ⟨r, hbuilt⟩ := Engine.exists_buildRequest (e := ⟨.stalling, false, some "m"⟩)
    (o := ⟨none, .empty⟩) hmodel' (by rw [hsaid]; exact List.cons_ne_nil _ _) .epoch false
  have hmessages : r.messages = [⟨.user, [.media planLink]⟩] := by
    rw [Engine.messages_of_buildRequest hbuilt, hsaid]
    rfl
  exact ⟨⟨hnames "photo" (by simp), rfl, hphoto⟩, hlegacy, t, hread, ht, r, hbuilt, hmessages,
    hrequests _ _ _ _ _ _ _ ht hbuilt⟩

end PromptBook

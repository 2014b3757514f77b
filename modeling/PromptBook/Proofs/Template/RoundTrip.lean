import PromptBook.Proofs.Document.Reading
import PromptBook.Proofs.Time.Writing

/-!
# Templates that are written and read

A template that is written as JSON is read as it was, whichever of its fields are set, and in whatever
order the members of the objects stand.  Values that are not looked into, defaults and metadata, come
back with their members in the order in which they stood.

**Results.**
* `Settings.reads`, `Part.reads`, `Variable.reads`: the parts of a template.
* `Template.reads`: templates.
-/

namespace PromptBook

open Document
open Json (Rearrangement Reordered SameName)
open Itemwise (map_eq_map)

variable {S : Json → Json → Prop}

section Parts

/-- The word for a kind that was made of a word names the kind. -/
theorem PartKind.ofWord_word (word : String) :
    PartKind.ofWord (PartKind.ofWord word).word = PartKind.ofWord word := by
  have hkinds : PartKind.ofWord word = .system ∨ PartKind.ofWord word = .user ∨
      PartKind.ofWord word = .media ∨ PartKind.ofWord word = .other word := by
    by_cases hsystem : Text.asciiLower word.toList = "system".toList
    · simp [PartKind.ofWord, hsystem]
    by_cases huser : Text.asciiLower word.toList = "user".toList
    · simp [PartKind.ofWord, huser]
    by_cases hmedia : Text.asciiLower word.toList = "media".toList
    · simp [PartKind.ofWord, hmedia]
    · simp only [PartKind.ofWord, hsystem, huser, hmedia, if_false, or_true]
  rcases hkinds with hkind | hkind | hkind | hkind
  · rw [hkind]
    decide
  · rw [hkind]
    decide
  · rw [hkind]
    decide
  · rw [hkind]
    exact hkind

/-- A part of a kind that a word names. -/
def Part.Named (p : Part) : Prop :=
  ∃ word, p.kind = PartKind.ofWord word

theorem Part.reads (hS : Rearrangement S) {p : Part} (h : p.Named) :
    Reads S Part.ofDocument p.toJson (Eq p) := by
  have hkind : Reads S kindOfDocument (.string p.kind.word) (Eq p.kind) := by
    obtain ⟨word, hword⟩ := h
    intro y hy
    obtain rfl := hS.plain rfl hy
    refine ⟨PartKind.ofWord p.kind.word, rfl, ?_⟩
    rw [hword, PartKind.ofWord_word]
  have hcontent := reads_string hS p.content
  intro y hy
  obtain ⟨r, hr, hthere⟩ := reads_record hS "struct Part" false (by decide)
    (.cons (.of_reads hkind) <| .cons (.of_reads hcontent) <|
      .cons (.of_optional hS (reads_texts? hS)) .nil) y hy
  simp only [List.forall_mem_cons] at hthere
  obtain ⟨hatType, hatContent, hatUrl, _⟩ := hthere
  refine ⟨p, ?_, rfl⟩
  simp only [Part.ofDocument, Part.fields, hr, required_eq hatType hkind,
    withDefault_eq hatContent hcontent, optional_eq hS hatUrl (reads_texts? hS), bind, Except.bind]

end Parts

theorem Timestamp.reads (hS : Rearrangement S) {t : Timestamp} (h : t.Valid) :
    Reads S Timestamp.ofDocument (.string t.write) (Eq t) := by
  intro y hy
  obtain rfl := hS.plain rfl hy
  refine ⟨t, ?_, rfl⟩
  have htext : text? (Json.string t.write) = some t.write := rfl
  rw [Timestamp.ofDocument, htext]
  simp only [Timestamp.read_write h]

section Settings

namespace Settings

/-- Whole numbers of 32 bits, and finite numbers of single precision. -/
structure InRange (s : Settings) : Prop where
  maxOutputTokens : ∀ n, s.maxOutputTokens = some n → n < 2 ^ 32
  temperature : ∀ x, s.temperature = some x → Number.single.Holds x
  topP : ∀ x, s.topP = some x → Number.single.Holds x
  topK : ∀ n, s.topK = some n → n < 2 ^ 32

theorem reads (hS : Rearrangement S) {s : Settings} (h : s.InRange) :
    Reads S Settings.ofDocument s.toJson (Eq s) := by
  have hword : ∀ {n? : Option Nat}, (∀ n, n? = some n → n < 2 ^ 32) →
      ∀ n, n? = some n → Json.nat n ≠ .null ∧ Reads S word32 (Json.nat n) (Eq n) :=
    fun hsmall n hn => ⟨nofun, reads_word32 hS (hsmall n hn)⟩
  have hsingle : ∀ {x? : Option Number.Binary}, (∀ x, x? = some x → Number.single.Holds x) →
      ∀ x, x? = some x →
        Json.number (.single x) ≠ .null ∧ Reads S single (.number (.single x)) (Eq x) :=
    fun hholds x hx => ⟨nofun, reads_single hS (hholds x hx)⟩
  have htexts := reads_texts hS s.stopSequences
  have hstops : ∀ x, (if s.stopSequences.isEmpty then none
      else some (Json.texts s.stopSequences)) = some x →
      Reads S (list string) x (Eq s.stopSequences) := by
    intro x hx
    split at hx
    · cases hx
    · cases hx
      exact htexts
  intro y hy
  obtain ⟨r, hr, hthere⟩ := reads_record hS "struct GenerationConfig" true (by decide)
    (.cons (.of_optional hS (hword h.maxOutputTokens)) <|
      .cons (.of_optional hS (hsingle h.temperature)) <| .cons (.of_optional hS (hsingle h.topP)) <|
      .cons (.of_optional hS (hword h.topK)) <| .cons (.of_each hstops) .nil) y hy
  simp only [List.forall_mem_cons] at hthere
  obtain ⟨hatMost, hatTemperature, hatTopP, hatTopK, hatStops, _⟩ := hthere
  have hstopsRead : r.withDefault "stopSequences" [] (list string) = .ok s.stopSequences := by
    cases hempty : s.stopSequences with
    | nil =>
        rw [hempty] at hatStops
        exact withDefault_of_none hatStops
    | cons first rest =>
        rw [hempty] at hatStops htexts
        exact withDefault_eq hatStops htexts
  refine ⟨s, ?_, rfl⟩
  simp only [Settings.ofDocument, Settings.fields, hr,
    optional_eq hS hatMost (hword h.maxOutputTokens),
    optional_eq hS hatTemperature (hsingle h.temperature),
    optional_eq hS hatTopP (hsingle h.topP), optional_eq hS hatTopK (hword h.topK), hstopsRead,
    bind, Except.bind]

end Settings

end Settings

section Related

variable {A C : Type} {r : A → A → Prop} {f : A → C}

theorem map_eq_of_rel (hf : ∀ {a b}, r a b → f b = f a) {a? b? : Option A} (h : Option.Rel r a? b?) :
    b?.map f = a?.map f := by
  cases h with
  | none => rfl
  | some hab => rw [Option.map_some, Option.map_some, hf hab]

end Related

section Variables

namespace Variable

/-- The declaration with its default in order. -/
def sorted (v : Variable) : Variable :=
  { v with default := v.default.map Json.sorted }

/-- The same declaration, but for its default, which is related. -/
structure Like (S : Json → Json → Prop) (v v' : Variable) : Prop where
  others : v' = { v with default := v'.default }
  default : Option.Rel S v.default v'.default

theorem Like.eq {v v' : Variable} (h : Like Eq v v') : v' = v := by
  have hdefault : v'.default.map id = v.default.map id := map_eq_of_rel Eq.symm h.default
  rw [Option.map_id, id, id] at hdefault
  rw [h.others, hdefault]

theorem Like.sorted_eq {v v' : Variable} (h : Like Reordered v v') : v'.sorted = v.sorted := by
  have hdefault : v'.default.map Json.sorted = v.default.map Json.sorted :=
    map_eq_of_rel (fun hsame => hsame.sorted_eq.symm) h.default
  rw [h.others, sorted, sorted, hdefault]

theorem reads (hS : Rearrangement S) {v : Variable} (h : v.default ≠ some .null) :
    Reads S Variable.ofDocument v.toJson (Like S v) := by
  have hname := reads_string hS v.name
  have htype := reads_string hS v.type
  have hrequired := reads_boolean hS v.required
  have hdescription := reads_string hS v.description
  have hdefault : ∀ x, v.default = some x → id x ≠ Json.null ∧ Reads S Document.json (id x) (S x) :=
    fun x hx => ⟨fun hnull => h (hx.trans (congrArg some hnull)), reads_json x⟩
  have hfits : Fits S (field "default" (Document.optional Document.json)) ("default", v.default) := by
    simpa using Fits.of_optional hS hdefault
  intro y hy
  obtain ⟨r, hr, hthere⟩ := reads_record hS "struct Variable" false (by decide)
    (.cons (.of_reads hname) <| .cons (.of_reads htype) <| .cons (.of_reads hrequired) <|
      .cons hfits <| .cons (.of_reads hdescription) .nil) y hy
  simp only [List.forall_mem_cons] at hthere
  obtain ⟨hatName, hatType, hatRequired, hatDefault, hatDescription, _⟩ := hthere
  have hatDefault' : Option.Rel S (v.default.map id) (r.members.lookup "default") := by
    simpa using hatDefault
  obtain ⟨default', hread, hrel⟩ := optional_of hS hatDefault' hdefault
  refine ⟨{ v with default := default' }, ?_, rfl, hrel⟩
  simp only [Variable.ofDocument, Variable.fields, hr, required_eq hatName hname,
    withDefault_eq hatType htype, withDefault_eq hatRequired hrequired, hread,
    withDefault_eq hatDescription hdescription, bind, Except.bind]

end Variable

end Variables

namespace Template

/-- The template with its defaults and metadata in order. -/
def sorted (t : Template) : Template :=
  { t with
    declarations := t.declarations.map Variable.sorted
    metadata := t.metadata.map fun m => (m.1, m.2.sorted) }

/-- A template as it can be held: the numbers of its settings are in range, the kinds of its parts
are named, no default is null, the metadata and all objects are in order, and the timestamps are of
the calendar. -/
structure WellFormed (t : Template) : Prop where
  settings : t.settings.InRange
  kinds : ∀ p ∈ t.parts, p.Named
  defaults : ∀ v ∈ t.declarations, v.default ≠ some .null
  metadata : t.metadata.Ordered
  objects : t.sorted = t
  createdAt : t.createdAt.Valid
  updatedAt : t.updatedAt.Valid

/-- The same template, but for defaults and metadata, which are related. -/
structure Like (S : Json → Json → Prop) (t t' : Template) : Prop where
  others : t' = { t with declarations := t'.declarations, metadata := t'.metadata }
  declarations : List.Forall₂ (Variable.Like S) t.declarations t'.declarations
  metadata : List.Forall₂ (SameName S) t.metadata t'.metadata

theorem Like.eq {t t' : Template} (h : Like Eq t t') : t' = t := by
  have hdeclarations : t'.declarations.map id = t.declarations.map id :=
    (map_eq_map (fun hlike => hlike.eq.symm) h.declarations).symm
  have hmetadata : t'.metadata.map id = t.metadata.map id :=
    (map_eq_map (fun hsame => Prod.ext hsame.1 hsame.2) h.metadata).symm
  rw [List.map_id, List.map_id] at hdeclarations hmetadata
  rw [h.others, hdeclarations, hmetadata]

theorem Like.sorted_eq {t t' : Template} (h : Like Reordered t t') : t'.sorted = t.sorted := by
  have hdeclarations :
      t'.declarations.map Variable.sorted = t.declarations.map Variable.sorted :=
    (map_eq_map (fun hlike => hlike.sorted_eq.symm) h.declarations).symm
  have hmetadata : (t'.metadata.map fun m => (m.1, m.2.sorted)) =
      t.metadata.map fun m => (m.1, m.2.sorted) :=
    (map_eq_map (fun hsame => Prod.ext hsame.1 hsame.2.sorted_eq) h.metadata).symm
  rw [h.others, sorted, sorted, hdeclarations, hmetadata]

theorem reads (hS : Rearrangement S) {t : Template} (h : t.WellFormed) :
    Reads S Template.ofDocument t.toJson (Like S t) := by
  have hname := reads_string hS t.name
  have hdescription := reads_string hS t.description
  have hversion := reads_string hS t.version
  have htags := reads_texts hS t.tags
  have hsettings := Settings.reads hS h.settings
  have hparts := reads_list_eq hS fun p hp => Part.reads hS (h.kinds p hp)
  have hdeclarations := reads_list hS fun v hv => Variable.reads hS (h.defaults v hv)
  have hmetadata := reads_dictionary hS h.metadata
  have hcreatedAt := Timestamp.reads hS h.createdAt
  have hupdatedAt := Timestamp.reads hS h.updatedAt
  intro y hy
  obtain ⟨r, hr, hthere⟩ := reads_record hS "struct Template" false (by decide)
    (.cons (.of_reads hname) <| .cons (.of_reads hdescription) <| .cons (.of_reads hversion) <|
      .cons (.of_optional hS (reads_texts? hS)) <| .cons (.of_reads htags) <|
      .cons (.of_optional hS (reads_texts? hS)) <| .cons (.of_reads hsettings) <|
      .cons (.of_reads hparts) <| .cons (.of_reads hdeclarations) <|
      .cons (.of_reads hmetadata) <| .cons (.of_reads hcreatedAt) <|
      .cons (.of_reads hupdatedAt) .nil) y hy
  simp only [List.forall_mem_cons] at hthere
  obtain ⟨hatName, hatDescription, hatVersion, hatCategory, hatTags, hatModel, hatSettings, hatParts,
    hatDeclarations, hatMetadata, hatCreatedAt, hatUpdatedAt, _⟩ := hthere
  have hdeclarationsRead : ∃ declarations,
      r.withDefault "variables" [] (list Variable.ofDocument) = .ok declarations ∧
        List.Forall₂ (Variable.Like S) t.declarations declarations :=
    withDefault_of hatDeclarations hdeclarations
  have hmetadataRead : ∃ metadata, r.withDefault "metadata" [] dictionary = .ok metadata ∧
      List.Forall₂ (SameName S) t.metadata metadata :=
    withDefault_of hatMetadata hmetadata
  obtain ⟨declarations, hdeclarationsRead, hdeclarationsLike⟩ := hdeclarationsRead
  obtain ⟨metadata, hmetadataRead, hmetadataLike⟩ := hmetadataRead
  refine ⟨{ t with declarations := declarations, metadata := metadata }, ?_, rfl,
    hdeclarationsLike, hmetadataLike⟩
  simp only [Template.ofDocument, Template.fields, hr, required_eq hatName hname,
    withDefault_eq hatDescription hdescription, withDefault_eq hatVersion hversion,
    optional_eq hS hatCategory (reads_texts? hS), withDefault_eq hatTags htags,
    optional_eq hS hatModel (reads_texts? hS), withDefault_eq hatSettings hsettings,
    required_eq hatParts hparts, hdeclarationsRead, hmetadataRead,
    required_eq hatCreatedAt hcreatedAt, required_eq hatUpdatedAt hupdatedAt, bind, Except.bind]

/-- A template comes back as it was written. -/
theorem ofDocument_toJson {t : Template} (h : t.WellFormed) : ofDocument t.toJson = .ok t := by
  obtain ⟨t', hread, hlike⟩ := reads Rearrangement.eq h t.toJson rfl
  rw [hread, hlike.eq]

/-- A template comes back in whatever order the members of the objects stand. -/
theorem ofDocument_reordered {t : Template} (h : t.WellFormed) {y : Json}
    (hy : Reordered t.toJson y) : ∃ t', ofDocument y = .ok t' ∧ t'.sorted = t := by
  obtain ⟨t', hread, hlike⟩ := reads Rearrangement.reordered h y hy
  exact ⟨t', hread, hlike.sorted_eq.trans h.objects⟩

end Template
end PromptBook

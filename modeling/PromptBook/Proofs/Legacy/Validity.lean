import PromptBook.Proofs.Engine.Influence
import PromptBook.Proofs.Legacy.Grammar
import PromptBook.Proofs.Legacy.Keywords
import PromptBook.Proofs.Placeholder.Occurrences
import PromptBook.Proofs.Template.Defects

/-!
# What the validator finds in legacy documents

A legacy document cannot say much that is wrong.  Its sections are texts of the system or of the
user, each of its media refers to a variable of its own, and each of its variables is an identifier
that is declared once.  So nothing is left to find but a blank name and blank sections.

**Results.**
* `Placeholder.names_token`: the token of a variable refers to the variable and to no other.
* `sound_of_passages`: the template of a document is sound.
* `validate_of_legacy`: the report on the template of a document.
-/

namespace PromptBook

namespace Placeholder

variable {name : String}

/-- The token of a variable refers to the variable and to no other. -/
theorem names_token (h : isIdentifierText name = true) : names (token name) = [name] := by
  have hid : isIdentifier name.toList = true := h
  have hpieces : pieces (token name).toList = [.token name.toList] := by
    rw [token, String.toList_ofList, pieces_of_braceFree (BraceFree.of_isIdentifier hid)]
  have hreference : reference? (.token name.toList) = some name := by
    simp [reference?, Legacy.trim_of_isIdentifier hid, hid]
  rw [names, hpieces, List.filterMap_cons_some hreference]
  rfl

theorem isBlankText_token : Text.isBlankText (token name) = false := by
  simp [Text.isBlankText, Text.blank, token, Text.isBlank]

end Placeholder

namespace Legacy

open Placeholder (distinct distinct_inFirstOrder isIdentifierText)

section Templates

variable {name : String} {p : Passage} {ps : List Passage} {t : Template}

theorem isIdentifierText_of_mem_names (h : name ∈ p.names) : isIdentifierText name = true := by
  obtain ⟨argument, _, hname⟩ := List.mem_filterMap.mp h
  obtain ⟨_, _, _, hid⟩ := mediaName?_eq_some_iff.mp hname
  exact hid

theorem isIdentifierText_of_mem_distinct (h : name ∈ distinct (ps.flatMap Passage.names)) :
    isIdentifierText name = true := by
  rw [(distinct_inFirstOrder _).mem_iff, List.mem_flatMap] at h
  obtain ⟨p, _, hname⟩ := h
  exact isIdentifierText_of_mem_names hname

theorem complete_part (p : Passage) : p.part.Complete := by
  obtain ⟨role, segments⟩ := p
  cases role <;> exact ⟨rfl, nofun⟩

theorem complete_mediaPart (name : String) : (mediaPart name).Complete :=
  ⟨rfl, fun _ => ⟨_, rfl, Placeholder.isBlankText_token⟩⟩

theorem complete_mediaVariable (h : isIdentifierText name = true) :
    (mediaVariable name).Complete where
  name := h
  type := by
    simp [mediaVariable, Text.isBlankText, Text.blank, Text.isBlank]

/-- The template of a document with at least one section is sound. -/
theorem sound_of_passages (hps : ps ≠ [])
    (hparts : t.parts = ps.map Passage.part ++
      (distinct (ps.flatMap Passage.names)).map mediaPart)
    (hdeclarations : t.declarations = (distinct (ps.flatMap Passage.names)).map mediaVariable) :
    t.Sound where
  nonempty := by
    simp [hparts, hps]
  parts := by
    intro part hpart
    rw [hparts] at hpart
    rcases List.mem_append.mp hpart with hpart | hpart
    · obtain ⟨p, _, rfl⟩ := List.mem_map.mp hpart
      exact complete_part p
    · obtain ⟨name, _, rfl⟩ := List.mem_map.mp hpart
      exact complete_mediaPart name
  declarations := by
    intro v hv
    rw [hdeclarations] at hv
    obtain ⟨name, hname, rfl⟩ := List.mem_map.mp hv
    exact complete_mediaVariable (isIdentifierText_of_mem_distinct hname)
  nodup := by
    have hnames : (distinct (ps.flatMap Passage.names)).map ((·.name) ∘ mediaVariable) =
        distinct (ps.flatMap Passage.names) := List.map_id _
    rw [hdeclarations, List.map_map, hnames]
    exact (distinct_inFirstOrder _).nodup

/-- Each variable of a document comes with a part that refers to it. -/
theorem referenced_of_passages
    (hparts : t.parts = ps.map Passage.part ++
      (distinct (ps.flatMap Passage.names)).map mediaPart)
    (hdeclarations : t.declarations = (distinct (ps.flatMap Passage.names)).map mediaVariable) :
    ∀ v ∈ t.declarations, v.name ∈ t.referenced := by
  intro v hv
  rw [hdeclarations] at hv
  obtain ⟨name, hname, rfl⟩ := List.mem_map.mp hv
  have htoken : name ∈ Placeholder.names (Placeholder.token name) := by
    rw [Placeholder.names_token (isIdentifierText_of_mem_distinct hname)]
    exact List.mem_cons_self
  have hpart : mediaPart name ∈ t.parts := by
    rw [hparts]
    exact List.mem_append_right _ (List.mem_map_of_mem hname)
  exact Template.mem_referenced_iff.mpr
    ⟨mediaPart name, hpart, Placeholder.token name, by simp [mediaPart, Part.media, Part.sources],
      htoken⟩

end Templates

section Reports

variable {cs : List Char} {t : Template} {now : Timestamp} {stem : Option String}

/-- What a text with a role marker is read as. -/
theorem passages_of_read (hmarker : hasMarker cs = true) (hread : Legacy.read now stem cs = .ok t) :
    ∃ ps : List Passage, ps ≠ [] ∧
      t.parts = ps.map Passage.part ++ (distinct (ps.flatMap Passage.names)).map mediaPart ∧
      t.declarations = (distinct (ps.flatMap Passage.names)).map mediaVariable := by
  have hwell : WellFormed (scan cs) := by
    by_contra hnot
    obtain ⟨fault, hfault⟩ := read_of_not_wellFormed hnot now stem
    rw [hread] at hfault
    cases hfault
  obtain ⟨ps, hcut, hmedia⟩ := hwell.exists_passages
  obtain ⟨t', ht', hparts, hdeclarations⟩ := read_of_passages hcut hmedia now stem
  rw [hread] at ht'
  cases ht'
  refine ⟨ps, ?_, hparts, hdeclarations⟩
  -- Without sections there would be no role marker.
  rintro rfl
  have hnone : roleArguments (scan cs) = [] := by
    rw [roleArguments_eq_cut, hcut]
    rfl
  obtain ⟨segment, hsegment, hargument⟩ := List.any_eq_true.mp hmarker
  rw [roleArguments, List.filterMap_eq_nil_iff] at hnone
  simp [hnone segment hsegment] at hargument

/-- What a legacy document is read as. -/
theorem passages_of_source {text source : String} (h : Dialect.ofText text = .legacy)
    (hread : Source.read now source stem text = .ok t) :
    ∃ ps : List Passage, ps ≠ [] ∧
      t.parts = ps.map Passage.part ++ (distinct (ps.flatMap Passage.names)).map mediaPart ∧
      t.declarations = (distinct (ps.flatMap Passage.names)).map mediaVariable := by
  have hmarker : hasMarker text.toList = true := by
    by_contra hno
    simp [Dialect.ofText, hno] at h
  rw [source_read_of_hasMarker hmarker] at hread
  have hlegacy : Legacy.read now stem text.toList = .ok t := by
    cases hresult : Legacy.read now stem text.toList with
    | error fault =>
        rw [hresult] at hread
        cases hread
    | ok t' =>
        rw [hresult] at hread
        cases hread
        rfl
  exact passages_of_read hmarker hlegacy

/--
The only error that can be found in the template of a legacy document is that its name is blank, and
it is found whenever the name is.  All its variables are referred to, and there is one warning for
each text part without text.
-/
theorem validate_of_legacy {text source : String} (h : Dialect.ofText text = .legacy)
    (hread : Source.read now source stem text = .ok t) :
    t.validate.errors =
        (if Text.isBlankText t.name then ["template name cannot be empty"] else []) ∧
      (∀ v ∈ t.declarations, v.name ∈ t.referenced) ∧
      t.validate.warnings =
        (t.parts.zipIdx.filter fun (p, _) => p.lacksText).map fun (p, i) =>
          p.kind.word ++ " part " ++ toString i ++ " has empty content" := by
  obtain ⟨ps, hps, hparts, hdeclarations⟩ := passages_of_source h hread
  have hreferenced := referenced_of_passages hparts hdeclarations
  exact ⟨Template.errors_of_sound (sound_of_passages hps hparts hdeclarations), hreferenced,
    Template.warnings_of_referenced hreferenced⟩

/-- A document that names itself with a blank, and a user who says nothing beside a picture. -/
def namelessPicture : String :=
  "\x7b\x7brole \"config\"\x7d\x7d name: \" \" \x7b\x7brole \"user\"\x7d\x7d" ++
    " \x7b\x7bmedia url=photo\x7d\x7d"

theorem validate_namelessPicture :
    Dialect.ofText namelessPicture = .legacy ∧
      ∃ t, Source.read .epoch "inline" none namelessPicture = .ok t ∧
        t.validate.errors = ["template name cannot be empty"] ∧
        t.declarations.map (·.name) = ["photo"] ∧ "photo" ∈ t.referenced ∧
        t.validate.warnings = ["user part 1 has empty content"] := by
  have hlegacy : Dialect.ofText namelessPicture = .legacy := by decide
  obtain ⟨t, hread, hname, hparts, hdeclarations⟩ :
      ∃ t, Source.read .epoch "inline" none namelessPicture = .ok t ∧ t.name = " " ∧
        t.parts = [Part.system "name: \" \"", Part.user "", mediaPart "photo"] ∧
        t.declarations = [mediaVariable "photo"] :=
    ⟨_, rfl, rfl, rfl, rfl⟩
  obtain ⟨herrors, hreferenced, hwarnings⟩ := validate_of_legacy hlegacy hread
  rw [hname] at herrors
  rw [hparts] at hwarnings
  rw [hdeclarations] at hreferenced
  refine ⟨hlegacy, t, hread, herrors.trans (by decide), ?_, hreferenced _ List.mem_cons_self,
    hwarnings.trans (by decide)⟩
  rw [hdeclarations]
  rfl

end Reports

end Legacy
end PromptBook

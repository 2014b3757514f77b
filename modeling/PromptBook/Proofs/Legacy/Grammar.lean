import PromptBook.Proofs.Legacy.Passages
import PromptBook.Proofs.Placeholder.Distinct
import PromptBook.Source

/-!
# The grammar of legacy documents

Which texts with a role marker are legacy documents, and what their templates look like.  Both are
said of the segments of the text alone: of its role markers in their order, and of the media blocks
after a marker of the user and before the next marker.

**Results.**
* `read_legacy_iff_wellFormed`: exactly the well-formed texts are read, all others are refused for
  their format, and a template that is read has the shape that its text asks for.
-/

namespace PromptBook
namespace Legacy

open Placeholder (InFirstOrder distinct distinct_inFirstOrder)

section Grammar

/-- The arguments of the role markers among segments. -/
def roleArguments (segments : List Segment) : List (List Char) :=
  segments.filterMap roleArgument?

/-- The arguments of the media blocks in sections of the user.  `inUser` tells whether the segments
begin in one. -/
def userMedia (inUser : Bool) : List Segment → List (List Char)
  | [] => []
  | segment :: rest =>
      match roleArgument? segment, mediaArgument? segment with
      | some argument, _ => userMedia (argument == Role.user.quoted) rest
      | none, some argument =>
          if inUser then argument :: userMedia inUser rest else userMedia inUser rest
      | none, none => userMedia inUser rest

/-- Every marker has one of the three roles, and every media block of the user a variable. -/
structure WellFormed (segments : List Segment) : Prop where
  roles : ∀ argument ∈ roleArguments segments, ∃ role : Role, argument = role.quoted
  media : ∀ argument ∈ userMedia false segments, ∃ name, RefersTo argument name

/-- The kind of the part under a role marker. -/
def kindOf (argument : List Char) : PartKind :=
  if argument = Role.user.quoted then .user else .system

/--
What the template of a document looks like: `texts` are the parts of its sections, and `names` the
variables that its media blocks refer to.
-/
structure HasShape (segments : List Segment) (t : Template) (texts : List Part)
    (names : List String) : Prop where
  parts : t.parts = texts ++ names.map fun name => Part.media ("\x7b\x7b" ++ name ++ "\x7d\x7d")
  kinds : texts.map (·.kind) = (roleArguments segments).map kindOf
  textual : ∀ part ∈ texts, part.reference = none
  declarations : t.declarations.map (fun v => (v.name, v.required, v.default)) =
    names.map fun name => (name, true, some (Json.string name))
  order : ∃ references, List.Forall₂ RefersTo (userMedia false segments) references ∧
    InFirstOrder names references

end Grammar

section Cutting

theorem roleArguments_eq_cut (segments : List Segment) :
    roleArguments segments = (cut segments).2.map (·.1) := by
  induction segments with
  | nil =>
      rfl
  | cons s rest ih =>
      cases hs : roleArgument? s with
      | none =>
          rw [cut_cons_of_other hs, ← ih]
          simp [roleArguments, hs]
      | some argument =>
          rw [cut_cons_of_marker hs, List.map_cons, ← ih]
          simp [roleArguments, hs]

/-- The media of the user, from marker to marker. -/
theorem userMedia_eq_cut (inUser : Bool) (segments : List Segment) :
    userMedia inUser segments =
      (if inUser then mediaArguments (cut segments).1 else []) ++
        (cut segments).2.flatMap fun marked =>
          if marked.1 = Role.user.quoted then mediaArguments marked.2 else [] := by
  induction segments generalizing inUser with
  | nil =>
      cases inUser <;> rfl
  | cons s rest ih =>
      cases hs : roleArgument? s with
      | none =>
          rw [cut_cons_of_other hs]
          cases hm : mediaArgument? s with
          | none =>
              simp [userMedia, hs, hm, ih, mediaArguments]
          | some argument =>
              cases inUser <;> simp [userMedia, hs, hm, ih, mediaArguments]
      | some argument =>
          rw [cut_cons_of_marker hs]
          simp [userMedia, hs, ih, mediaArguments]

theorem quoted_eq_quoted_user_iff {r : Role} : r.quoted = Role.user.quoted ↔ r = .user := by
  cases r <;> decide

variable {segments : List Segment} {ps : List Passage}

theorem roleArguments_of_passages (hcut : (cut segments).2 = ps.map Passage.marked) :
    roleArguments segments = ps.map fun p => p.role.quoted := by
  rw [roleArguments_eq_cut, hcut, List.map_map]
  rfl

theorem userMedia_of_passages (hcut : (cut segments).2 = ps.map Passage.marked) :
    userMedia false segments = ps.flatMap Passage.media := by
  rw [userMedia_eq_cut, hcut, List.flatMap_map]
  simp only [Bool.false_eq_true, if_false, List.nil_append]
  apply List.flatMap_congr
  intro p _
  simp only [Passage.marked, quoted_eq_quoted_user_iff]
  split
  · rename_i hrole
    exact (Passage.media_of_user hrole).symm
  · rename_i hrole
    exact (Passage.media_of_other hrole).symm

end Cutting

section Reading

variable {cs : List Char} {segments : List Segment} {ps : List Passage}

theorem kindOf_quoted (r : Role) : kindOf r.quoted = r.partKind := by
  cases r <;> decide

theorem token_eq (name : String) :
    Placeholder.token name = "\x7b\x7b" ++ name ++ "\x7d\x7d" := by
  apply String.toList_inj.mp
  simp [Placeholder.token]

/-- Arguments that all refer to a variable, and the variables. -/
theorem forall₂_refersTo_filterMap {arguments : List (List Char)}
    (h : ∀ a ∈ arguments, ∃ name, mediaName? a = some name) :
    List.Forall₂ RefersTo arguments (arguments.filterMap mediaName?) := by
  induction arguments with
  | nil =>
      exact List.Forall₂.nil
  | cons a rest ih =>
      obtain ⟨⟨name, hname⟩, hrest⟩ := List.forall_mem_cons.mp h
      rw [List.filterMap_cons_some hname]
      exact List.Forall₂.cons (mediaName?_eq_some_iff.mp hname) (ih hrest)

/-- The passages of a well-formed text, whose media blocks all refer to variables. -/
theorem WellFormed.exists_passages (h : WellFormed (scan cs)) :
    ∃ ps : List Passage, (cut (scan cs)).2 = ps.map Passage.marked ∧
      ∀ p ∈ ps, ∀ a ∈ p.media, ∃ name, mediaName? a = some name := by
  have hroles : ∀ x ∈ (cut (scan cs)).2, ∃ r : Role, x.1 = r.quoted := by
    intro x hx
    refine h.roles x.1 ?_
    rw [roleArguments_eq_cut]
    exact List.mem_map_of_mem hx
  obtain ⟨ps, hcut⟩ := Legacy.exists_passages hroles
  refine ⟨ps, hcut, fun p hp a ha => ?_⟩
  have huser : a ∈ userMedia false (scan cs) := by
    rw [userMedia_of_passages hcut]
    exact List.mem_flatMap.mpr ⟨p, hp, ha⟩
  obtain ⟨name, hname⟩ := h.media a huser
  exact ⟨name, mediaName?_eq_some_iff.mpr hname⟩

/-- A well-formed text is read, and its template has the shape that the text asks for. -/
theorem read_of_wellFormed (h : WellFormed (scan cs)) (now : Timestamp) (stem : Option String) :
    ∃ t texts names, Legacy.read now stem cs = .ok t ∧ HasShape (scan cs) t texts names := by
  obtain ⟨ps, hcut, hmedia'⟩ := h.exists_passages
  have hmedia : ∀ a ∈ ps.flatMap Passage.media, ∃ name, mediaName? a = some name := by
    intro a ha
    obtain ⟨p, hp, ha⟩ := List.mem_flatMap.mp ha
    exact hmedia' p hp a ha
  obtain ⟨t, hread, hparts, hdeclarations⟩ := read_of_passages hcut hmedia' now stem
  refine ⟨t, ps.map Passage.part, distinct (ps.flatMap Passage.names), hread, ?_⟩
  have hnames : ps.flatMap Passage.names =
      (ps.flatMap Passage.media).filterMap mediaName? := by
    rw [List.filterMap_flatMap]
    rfl
  refine ⟨?_, ?_, ?_, ?_, ?_⟩
  · rw [hparts]
    refine congrArg (ps.map Passage.part ++ ·) (List.map_congr_left ?_)
    intro name _
    rw [mediaPart, token_eq]
  · rw [roleArguments_of_passages hcut, List.map_map, List.map_map]
    apply List.map_congr_left
    intro p _
    exact (kindOf_quoted p.role).symm
  · intro part hpart
    obtain ⟨p, _, rfl⟩ := List.mem_map.mp hpart
    rfl
  · rw [hdeclarations, List.map_map]
    rfl
  · refine ⟨ps.flatMap Passage.names, ?_, distinct_inFirstOrder _⟩
    rw [userMedia_of_passages hcut, hnames]
    exact forall₂_refersTo_filterMap hmedia

/-- A text that is not well-formed is refused. -/
theorem read_of_not_wellFormed (h : ¬WellFormed (scan cs)) (now : Timestamp)
    (stem : Option String) :
    ∃ fault, Legacy.read now stem cs = .error fault := by
  by_cases hroles : ∀ x ∈ (cut (scan cs)).2, ∃ r : Role, x.1 = r.quoted
  · -- All markers name roles, so one of the media blocks is to blame.
    obtain ⟨ps, hcut⟩ := exists_passages hroles
    have hbad : ∃ a ∈ userMedia false (scan cs), ∀ name, ¬RefersTo a name := by
      by_contra hgood
      push Not at hgood
      refine h ⟨?_, hgood⟩
      intro argument hargument
      rw [roleArguments_of_passages hcut] at hargument
      obtain ⟨p, _, rfl⟩ := List.mem_map.mp hargument
      exact ⟨p.role, rfl⟩
    obtain ⟨a, ha, hnone⟩ := hbad
    rw [userMedia_of_passages hcut] at ha
    obtain ⟨p, hp, ha⟩ := List.mem_flatMap.mp ha
    have hname : mediaName? a = none := by
      cases hname : mediaName? a with
      | none => rfl
      | some name => exact absurd (mediaName?_eq_some_iff.mp hname) (hnone name)
    have hstable := stable_of_cut hcut
    obtain ⟨fault, hfault⟩ := textParts_of_unreferenced hstable hp ha hname []
    refine ⟨fault, ?_⟩
    rw [Legacy.read, sections, hcut, mapM_sectionOf]
    show ofSections now stem (ps.map Passage.body) = .error fault
    rw [ofSections, hfault]
    rfl
  · push Not at hroles
    obtain ⟨x, hx, hbad⟩ := hroles
    obtain ⟨fault, hfault⟩ := mapM_sectionOf_of_bad hx hbad
    refine ⟨fault, ?_⟩
    rw [Legacy.read, sections, hfault]
    rfl

end Reading

section Sources

variable {text : String}

/-- A text with a role marker is not blank. -/
theorem isBlankText_of_hasMarker (h : hasMarker text.toList = true) :
    Text.isBlankText text = false := by
  by_contra hblank
  have hplain := Placeholder.BraceFree.of_isBlankText (by simpa using hblank)
  have hscan := scan_append_plain hplain []
  rw [List.append_nil] at hscan
  rw [hasMarker, hscan] at h
  simp [roleArgument?, scan, scanFrom] at h

theorem source_read_of_hasMarker (h : hasMarker text.toList = true) (now : Timestamp)
    (source : String) (stem : Option String) :
    Source.read now source stem text =
      (Legacy.read now stem text.toList).mapError (.format source) := by
  simp [Source.read, isBlankText_of_hasMarker h, Dialect.ofText, h]

/--
A text with a role marker is read if and only if it is well-formed; if it is not, it is refused for
its format.  What is read has the shape that the text asks for.
-/
theorem read_legacy_iff_wellFormed (h : Dialect.ofText text = .legacy) (now : Timestamp)
    (source : String) (stem : Option String) :
    ((∃ t, Source.read now source stem text = .ok t) ↔ WellFormed (scan text.toList)) ∧
      (¬WellFormed (scan text.toList) →
        ∃ fault, Source.read now source stem text = .error (.format source fault)) ∧
      ∀ t, Source.read now source stem text = .ok t →
        ∃ texts names, HasShape (scan text.toList) t texts names := by
  have hmarker : hasMarker text.toList = true := by
    by_contra hno
    simp [Dialect.ofText, hno] at h
  have hsource := source_read_of_hasMarker hmarker now source stem
  by_cases hwell : WellFormed (scan text.toList)
  · obtain ⟨t, texts, names, hread, hshape⟩ := read_of_wellFormed hwell now stem
    have hok : Source.read now source stem text = .ok t := by
      rw [hsource, hread]
      rfl
    refine ⟨⟨fun _ => hwell, fun _ => ⟨t, hok⟩⟩, fun hnot => absurd hwell hnot, ?_⟩
    intro t' ht'
    rw [hok] at ht'
    cases ht'
    exact ⟨texts, names, hshape⟩
  · obtain ⟨fault, hread⟩ := read_of_not_wellFormed hwell now stem
    have herror : Source.read now source stem text = .error (.format source fault) := by
      rw [hsource, hread]
      rfl
    refine ⟨⟨?_, fun hyes => absurd hyes hwell⟩, fun _ => ⟨fault, herror⟩, ?_⟩
    · rintro ⟨t, ht⟩
      rw [herror] at ht
      cases ht
    · intro t ht
      rw [herror] at ht
      cases ht

/-- Two sections, an opener that begins no block, and one of two pictures twice. -/
def twoPictures : String :=
  "\x7b\x7brole \"system\"\x7d\x7d Look. \x7b\x7b role\"user\"\x7d\x7d" ++
    "\x7b\x7b \x7b\x7bmedia url=b\x7d\x7d" ++
    "\x7b\x7bmedia url=\"a\"\x7d\x7d\x7b\x7bmedia url=b\x7d\x7d"

theorem read_twoPictures :
    Dialect.ofText twoPictures = .legacy ∧
      ∃ t texts names, Source.read .epoch "inline" none twoPictures = .ok t ∧
        HasShape (scan twoPictures.toList) t texts names := by
  have hlegacy : Dialect.ofText twoPictures = .legacy := by decide
  have hroles : roleArguments (scan twoPictures.toList) =
      [Role.system.quoted, Role.user.quoted] := by decide
  have hmedia : userMedia false (scan twoPictures.toList) =
      ["url=b".toList, "url=\"a\"".toList, "url=b".toList] := by decide
  have hwell : WellFormed (scan twoPictures.toList) := by
    refine ⟨?_, ?_⟩
    · rw [hroles]
      simp
    · rw [hmedia]
      simp only [List.forall_mem_cons]
      exact ⟨⟨"b", "b".toList, by decide⟩, ⟨"a", "\"a\"".toList, by decide⟩,
        ⟨"b", "b".toList, by decide⟩, by simp⟩
  have h := read_legacy_iff_wellFormed hlegacy .epoch "inline" none
  obtain ⟨t, ht⟩ := h.1.mpr hwell
  obtain ⟨texts, names, hshape⟩ := h.2.2 t ht
  exact ⟨hlegacy, t, texts, names, ht, hshape⟩

end Sources

end Legacy
end PromptBook

import PromptBook.Proofs.Legacy.Grammar
import PromptBook.Proofs.Legacy.Keywords

/-!
# Writing legacy documents

A manuscript is a preamble and sections, each of literal text, placeholders and, in sections of the
user, references to media.  It is written out with a role marker before every section.

**Results.**
* `scan_text`: the blocks of a written manuscript are its markers, placeholders and media.
* `read_written`: to read a written manuscript gives its sections, in their order and each with its
  own text, and then its media.
-/

namespace PromptBook
namespace Legacy

open Placeholder (BraceFree InFirstOrder isIdentifier)

section Manuscripts

/-- Text without braces. -/
abbrev Plain := { cs : List Char // BraceFree cs }

/-- White space, or nothing. -/
abbrev Space := { cs : List Char // ∀ c ∈ cs, Text.isBlank c = true }

/-- The name of a variable. -/
abbrev Identifier := { cs : List Char // isIdentifier cs = true }

/-- A piece of a section.  Only sections of the user hold media. -/
inductive Fragment : Role → Type
  | literal {role : Role} (text : Plain) : Fragment role
  | placeholder {role : Role} (before : Space) (name : Identifier) (after : Space) : Fragment role
  | media (name : Identifier) : Fragment .user

/-- A section, with the white space inside its role marker. -/
structure Written where
  role : Role
  beforeKeyword : Space
  afterKeyword : Space
  afterRole : Space
  fragments : List (Fragment role)

/-- A document to be written: text before the first marker, and at least one section. -/
structure Manuscript where
  preamble : Plain
  first : Written
  others : List Written

namespace Fragment

variable {role : Role}

/-- A fragment as it is written. -/
def text : Fragment role → List Char
  | literal text => text.val
  | placeholder before name after =>
      "\x7b\x7b".toList ++ (before.val ++ (name.val ++ after.val)) ++ "\x7d\x7d".toList
  | media name => "\x7b\x7bmedia url=".toList ++ name.val ++ "\x7d\x7d".toList

/-- A fragment as it stands in the text of a part. -/
def kept : Fragment role → List Char
  | literal text => text.val
  | placeholder before name after => (placeholder before name after : Fragment role).text
  | media _ => []

/-- The variable that a fragment refers media to. -/
def mediaName : Fragment role → Option String
  | literal _ => none
  | placeholder _ _ _ => none
  | media name => some (String.ofList name.val)

end Fragment

namespace Written

/-- What stands inside the role marker of a section. -/
def inner (s : Written) : List Char :=
  s.beforeKeyword.val ++
    ("role".toList ++ (s.afterKeyword.val ++ s.role.quoted) ++ s.afterRole.val)

/-- A section as it is written. -/
def text (s : Written) : List Char :=
  "\x7b\x7b".toList ++ s.inner ++ "\x7d\x7d".toList ++ s.fragments.flatMap Fragment.text

/-- The part of a section. -/
def part (s : Written) : Part :=
  ⟨s.role.partKind, String.ofList (Text.trim (s.fragments.flatMap Fragment.kept)), none⟩

end Written

namespace Manuscript

/-- All sections. -/
def sections (m : Manuscript) : List Written :=
  m.first :: m.others

/-- A document as it is written. -/
def text (m : Manuscript) : List Char :=
  m.preamble.val ++ m.sections.flatMap Written.text

/-- The variables that media are referred to, in the order in which they are written. -/
def mediaNames (m : Manuscript) : List String :=
  m.sections.flatMap fun s => s.fragments.filterMap Fragment.mediaName

end Manuscript

end Manuscripts

section Pieces

/-- Braces around a text without braces. -/
theorem block_text (inner : List Char) :
    "\x7b\x7b".toList ++ inner ++ "\x7d\x7d".toList = (Segment.block inner).text := by
  simp [Segment.text]

namespace Fragment

variable {role : Role}

/-- The segments that a fragment is cut into. -/
def segments : Fragment role → List Segment
  | literal text => text.val.map .char
  | placeholder before name after => [.block (before.val ++ (name.val ++ after.val))]
  | media name => [.block ("media url=".toList ++ name.val)]

theorem text_placeholder (before : Space) (name : Identifier) (after : Space) :
    (placeholder before name after : Fragment role).text =
      (Segment.block (before.val ++ (name.val ++ after.val))).text :=
  block_text (before.val ++ (name.val ++ after.val))

theorem text_media (name : Identifier) :
    (media name).text = (Segment.block ("media url=".toList ++ name.val)).text := by
  have h : (media name).text =
      "\x7b\x7bmedia url=".toList ++ name.val ++ "\x7d\x7d".toList := rfl
  rw [h, ← block_text]
  simp

theorem braceFree_placeholder (before : Space) (name : Identifier) (after : Space) :
    BraceFree (before.val ++ (name.val ++ after.val)) :=
  (BraceFree.of_blank before.property).append
    ((BraceFree.of_isIdentifier name.property).append (BraceFree.of_blank after.property))

theorem braceFree_media (name : Identifier) :
    BraceFree ("media url=".toList ++ name.val) := by
  have hkeyword : BraceFree "media url=".toList := by decide
  exact hkeyword.append (BraceFree.of_isIdentifier name.property)

/-- A fragment is cut into its own segments, whatever stands after it. -/
theorem scan_text_append (f : Fragment role) (rest : List Char) :
    scan (f.text ++ rest) = f.segments ++ scan rest := by
  cases f with
  | literal text =>
      exact scan_append_plain text.property rest
  | placeholder before name after =>
      rw [text_placeholder, scan_block (braceFree_placeholder before name after)]
      rfl
  | media name =>
      rw [text_media, scan_block (braceFree_media name)]
      rfl

theorem scan_texts_append (fs : List (Fragment role)) (rest : List Char) :
    scan (fs.flatMap text ++ rest) = fs.flatMap segments ++ scan rest := by
  induction fs with
  | nil =>
      rfl
  | cons f fs ih =>
      rw [List.flatMap_cons, List.flatMap_cons, List.append_assoc, scan_text_append, ih,
        List.append_assoc]

theorem render_segments (f : Fragment role) : Segment.render f.segments = f.text := by
  cases f with
  | literal text =>
      exact render_map_char text.val
  | placeholder before name after =>
      rw [text_placeholder]
      simp [segments, Segment.render]
  | media name =>
      rw [text_media]
      simp [segments, Segment.render]

theorem mediaName?_of_name (name : Identifier) :
    mediaName? ("url=".toList ++ name.val) = some (String.ofList name.val) := by
  rw [mediaName?_eq_some_iff]
  refine ⟨name.val, rfl, ?_, ?_⟩
  · rw [trim_of_isIdentifier name.property, unquote_of_isIdentifier name.property]
    simp
  · simpa using name.property

/-- No fragment is taken for a role marker. -/
theorem roleArgument?_of_mem_segments {f : Fragment role} {s : Segment} (hs : s ∈ f.segments) :
    roleArgument? s = none := by
  cases f with
  | literal text =>
      obtain ⟨c, _, rfl⟩ := List.mem_map.mp hs
      rfl
  | placeholder before name after =>
      rw [List.mem_singleton.mp hs]
      exact argument?_placeholder "role" before.property name.property after.property
  | media name =>
      rw [List.mem_singleton.mp hs]
      exact argument?_role_media name.property

theorem mediaArgument?_placeholder (before : Space) (name : Identifier) (after : Space) :
    mediaArgument? (.block (before.val ++ (name.val ++ after.val))) = none :=
  argument?_placeholder "media" before.property name.property after.property

theorem mediaArgument?_media (name : Identifier) :
    mediaArgument? (.block ("media url=".toList ++ name.val)) =
      some ("url=".toList ++ name.val) :=
  argument?_media name.property

/-- The text of a fragment without its media. -/
theorem withoutMedia_segments (f : Fragment role) : withoutMedia f.segments = f.kept := by
  cases f with
  | literal text =>
      exact withoutMedia_map_char text.val
  | placeholder before name after =>
      have hkept : (placeholder before name after : Fragment role).kept =
          (placeholder before name after : Fragment role).text := rfl
      rw [hkept, text_placeholder]
      simp [withoutMedia, segments, keptText, mediaArgument?_placeholder]
  | media name =>
      simp only [withoutMedia, segments, List.flatMap_singleton, keptText, mediaArgument?_media]
      rfl

/-- Every media block of a fragment refers to its variable. -/
theorem mediaArguments_segments (f : Fragment role) :
    (mediaArguments f.segments).map mediaName? = f.mediaName.toList.map some := by
  cases f with
  | literal text =>
      rw [segments, mediaArguments_map_char]
      rfl
  | placeholder before name after =>
      simp [mediaArguments, segments, mediaArgument?_placeholder, mediaName]
  | media name =>
      have hsegments : mediaArguments (media name).segments = ["url=".toList ++ name.val] := by
        simp only [mediaArguments, segments, List.filterMap_cons, mediaArgument?_media,
          List.filterMap_nil]
      rw [hsegments, List.map_singleton, mediaName?_of_name]
      rfl

/-- Outside the sections of the user, everything is kept. -/
theorem kept_of_other (hrole : role ≠ .user) (f : Fragment role) : f.kept = f.text := by
  cases f with
  | literal text => rfl
  | placeholder before name after => rfl
  | media name => exact absurd rfl hrole

theorem mediaName_of_other (hrole : role ≠ .user) (f : Fragment role) : f.mediaName = none := by
  cases f with
  | literal text => rfl
  | placeholder before name after => rfl
  | media name => exact absurd rfl hrole

end Fragment

end Pieces

section Sections

namespace Written

/-- The passage that a section is read as. -/
def passage (s : Written) : Passage :=
  ⟨s.role, s.fragments.flatMap Fragment.segments⟩

/-- The segments that a section is cut into. -/
def segments (s : Written) : List Segment :=
  .block s.inner :: s.passage.segments

variable (s : Written)

theorem braceFree_inner : BraceFree s.inner := by
  have hkeyword : BraceFree "role".toList := by decide
  have hquoted : BraceFree s.role.quoted := by
    cases s.role <;> decide
  have hbetween : BraceFree (s.afterKeyword.val ++ s.role.quoted) :=
    (BraceFree.of_blank s.afterKeyword.property).append hquoted
  exact (BraceFree.of_blank s.beforeKeyword.property).append
    ((hkeyword.append hbetween).append (BraceFree.of_blank s.afterRole.property))

/-- The marker of a section names its role. -/
theorem roleArgument?_inner : roleArgument? (.block s.inner) = some s.role.quoted :=
  argument?_role s.role s.beforeKeyword.property s.afterKeyword.property s.afterRole.property

/-- A section is cut into its own segments, whatever stands after it. -/
theorem scan_text_append (rest : List Char) :
    scan (s.text ++ rest) = s.segments ++ scan rest := by
  rw [text, block_text, List.append_assoc, scan_block s.braceFree_inner,
    Fragment.scan_texts_append]
  rfl

theorem scan_texts (ss : List Written) :
    scan (ss.flatMap text) = ss.flatMap segments := by
  induction ss with
  | nil =>
      rfl
  | cons s ss ih =>
      rw [List.flatMap_cons, List.flatMap_cons, scan_text_append, ih]

/-- The markers of sections cut them apart. -/
theorem cut_segments (ss : List Written) :
    cut (ss.flatMap segments) = ([], ss.map fun s => s.passage.marked) := by
  induction ss with
  | nil =>
      rfl
  | cons s ss ih =>
      have hothers : ∀ segment ∈ s.passage.segments, roleArgument? segment = none := by
        intro segment hsegment
        obtain ⟨f, _, hf⟩ := List.mem_flatMap.mp hsegment
        exact Fragment.roleArgument?_of_mem_segments hf
      rw [List.flatMap_cons, segments, List.cons_append,
        cut_cons_of_marker s.roleArgument?_inner, cut_append_of_others hothers, ih]
      simp [Passage.marked, passage]

/-- What a section says is what its fragments keep. -/
theorem content_passage :
    s.passage.content = Text.trim (s.fragments.flatMap Fragment.kept) := by
  by_cases hrole : s.role = .user
  · have hwithout : withoutMedia s.passage.segments = s.fragments.flatMap Fragment.kept := by
      rw [withoutMedia, passage, List.flatMap_assoc]
      exact List.flatMap_congr fun f _ => f.withoutMedia_segments
    rw [Passage.content_of_user hrole, hwithout]
  · have hrender : Segment.render s.passage.segments = s.fragments.flatMap Fragment.kept := by
      rw [Segment.render, passage, List.flatMap_assoc]
      apply List.flatMap_congr
      intro f _
      rw [Fragment.kept_of_other hrole]
      exact f.render_segments
    rw [Passage.content_of_other hrole, hrender]

theorem part_passage : s.passage.part = s.part := by
  rw [Passage.part, content_passage]
  rfl

/-- The media of a section, one by one. -/
theorem media_passage :
    s.passage.media.map mediaName? = (s.fragments.filterMap Fragment.mediaName).map some := by
  by_cases hrole : s.role = .user
  · have hfragments : ∀ fs : List (Fragment s.role),
        (mediaArguments (fs.flatMap Fragment.segments)).map mediaName? =
          (fs.filterMap Fragment.mediaName).map some := by
      intro fs
      induction fs with
      | nil =>
          rfl
      | cons f fs ih =>
          rw [List.flatMap_cons, mediaArguments_append, List.map_append, ih,
            Fragment.mediaArguments_segments]
          cases h : f.mediaName with
          | none => simp [h]
          | some name => simp [h]
    rw [Passage.media_of_user hrole]
    exact hfragments s.fragments
  · have hnone : s.fragments.filterMap Fragment.mediaName = [] := by
      simp [Fragment.mediaName_of_other hrole]
    rw [Passage.media_of_other hrole, hnone]
    rfl

theorem exists_mediaName?_of_mem {a : List Char} (ha : a ∈ s.passage.media) :
    ∃ name, mediaName? a = some name := by
  have hmem : mediaName? a ∈ s.passage.media.map mediaName? := List.mem_map_of_mem ha
  rw [media_passage] at hmem
  obtain ⟨name, _, hname⟩ := List.mem_map.mp hmem
  exact ⟨name, hname.symm⟩

theorem names_passage : s.passage.names = s.fragments.filterMap Fragment.mediaName := by
  have hnames : s.passage.names = (s.passage.media.map mediaName?).filterMap id := by
    rw [List.filterMap_map]
    rfl
  rw [hnames, media_passage, List.filterMap_map]
  exact List.filterMap_some

end Written

end Sections

section Documents

namespace Manuscript

variable (m : Manuscript)

/-- The blocks of a written manuscript are its markers, placeholders and media. -/
theorem scan_text :
    scan m.text = m.preamble.val.map .char ++ m.sections.flatMap Written.segments := by
  rw [text, scan_append_plain m.preamble.property, Written.scan_texts]

theorem cut_text : (cut (scan m.text)).2 = (m.sections.map Written.passage).map Passage.marked := by
  have hpreamble : ∀ s ∈ m.preamble.val.map Segment.char, roleArgument? s = none := by
    intro s hs
    obtain ⟨c, _, rfl⟩ := List.mem_map.mp hs
    rfl
  rw [scan_text, cut_append_of_others hpreamble, Written.cut_segments, List.map_map]
  rfl

/-- A written manuscript has a role marker: that of its first section. -/
theorem hasMarker_text : hasMarker m.text = true := by
  rw [hasMarker, scan_text, List.any_append, sections, List.flatMap_cons, Written.segments,
    List.cons_append, List.any_cons, m.first.roleArgument?_inner]
  simp

end Manuscript

/--
To write out a manuscript and to read it gives one part for each section, in their order, with the
literals and placeholders of the section in it, and then a part for each variable that media are
referred to, in the order in which the variables come first.
-/
theorem read_written (m : Manuscript) (now : Timestamp) (source : String)
    (stem : Option String) :
    ∃ t names, Source.read now source stem (String.ofList m.text) = .ok t ∧
      InFirstOrder names m.mediaNames ∧
      t.parts = m.sections.map Written.part ++
        names.map fun name => Part.media ("\x7b\x7b" ++ name ++ "\x7d\x7d") := by
  have hmedia : ∀ p ∈ m.sections.map Written.passage, ∀ a ∈ p.media,
      ∃ name, mediaName? a = some name := by
    intro p hp a ha
    obtain ⟨s, _, rfl⟩ := List.mem_map.mp hp
    exact s.exists_mediaName?_of_mem ha
  obtain ⟨t, hread, hparts, _⟩ := read_of_passages m.cut_text hmedia now stem
  have hmarker : hasMarker (String.ofList m.text).toList = true := by
    rw [String.toList_ofList]
    exact m.hasMarker_text
  have hnames : (m.sections.map Written.passage).flatMap Passage.names = m.mediaNames := by
    rw [List.flatMap_map]
    exact List.flatMap_congr fun s _ => s.names_passage
  refine ⟨t, Placeholder.distinct m.mediaNames, ?_, Placeholder.distinct_inFirstOrder _, ?_⟩
  · rw [source_read_of_hasMarker hmarker, String.toList_ofList, hread]
    rfl
  · rw [hparts, hnames, List.map_map]
    refine congrArg₂ (· ++ ·) ?_ ?_
    · exact List.map_congr_left fun s _ => s.part_passage
    · apply List.map_congr_left
      intro name _
      rw [mediaPart, token_eq]

end Documents

end Legacy
end PromptBook

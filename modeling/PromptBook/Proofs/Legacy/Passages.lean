import PromptBook.Legacy.Document
import PromptBook.Proofs.Legacy.Lifting

/-!
# From role markers to parts

A passage is what stands under a role marker, before its white space is trimmed and its media are
taken out.  If the markers of a document name roles, it is read passage by passage, and each passage
says what its part is and which media it refers to.

**Results.**
* `mapM_sectionOf`, `mapM_sectionOf_of_bad`: whether all markers name roles.
* `textParts_of_references`, `textParts_of_unreferenced`: whether all media blocks of the user refer
  to variables.
* `read_of_passages`: what is read if both hold.
-/

namespace PromptBook
namespace Legacy

open Placeholder (addNew)

namespace Role

/-- The argument of a marker of the role. -/
def quoted : Role → List Char
  | config => "\"config\"".toList
  | system => "\"system\"".toList
  | user => "\"user\"".toList

/-- The kind of the part of a section with the role. -/
def partKind : Role → PartKind
  | config => .system
  | system => .system
  | user => .user

end Role

/-- A role and the segments up to the next marker. -/
structure Passage where
  role : Role
  segments : List Segment

namespace Passage

/-- The marker's argument and the segments after it. -/
def marked (p : Passage) : List Char × List Segment :=
  (p.role.quoted, p.segments)

/-- The section that a passage becomes. -/
def body (p : Passage) : Section :=
  ⟨p.role, Text.trim (Segment.render p.segments)⟩

/-- The text of the part: the user's without media blocks, that of others as it is. -/
def content (p : Passage) : List Char :=
  match p.role with
  | .user => Text.trim (withoutMedia p.segments)
  | .config | .system => Text.trim (Segment.render p.segments)

/-- The part that a passage becomes. -/
def part (p : Passage) : Part :=
  ⟨p.role.partKind, String.ofList p.content, none⟩

/-- The arguments of the media blocks that are looked at: those of the user. -/
def media (p : Passage) : List (List Char) :=
  match p.role with
  | .user => mediaArguments p.segments
  | .config | .system => []

/-- The variables that the media blocks refer to. -/
def names (p : Passage) : List String :=
  p.media.filterMap mediaName?

variable {p : Passage}

theorem media_of_user (h : p.role = .user) : p.media = mediaArguments p.segments := by
  simp [media, h]

theorem media_of_other (h : p.role ≠ .user) : p.media = [] := by
  unfold media
  split
  · contradiction
  · rfl
  · rfl

theorem content_of_user (h : p.role = .user) :
    p.content = Text.trim (withoutMedia p.segments) := by
  simp [content, h]

theorem content_of_other (h : p.role ≠ .user) :
    p.content = Text.trim (Segment.render p.segments) := by
  unfold content
  split
  · contradiction
  · rfl
  · rfl

theorem part_of_user (h : p.role = .user) :
    p.part = Part.user (String.ofList (Text.trim (withoutMedia p.segments))) := by
  rw [part, content_of_user h, h]
  rfl

theorem part_of_other (h : p.role ≠ .user) :
    p.part = Part.system (String.ofList (Text.trim (Segment.render p.segments))) := by
  rw [part, content_of_other h]
  cases hrole : p.role with
  | config => rfl
  | system => rfl
  | user => exact absurd hrole h

end Passage

section Markers

theorem roleOf_quoted (r : Role) : roleOf r.quoted = .ok r := by
  cases r <;> rfl

theorem eq_quoted_of_roleOf {argument : List Char} {r : Role} (h : roleOf argument = .ok r) :
    argument = r.quoted := by
  unfold roleOf at h
  split at h
  · cases h
  · rename_i word hword
    obtain ⟨tail, htail, hend⟩ := Option.bind_eq_some_iff.mp hword
    have hargument : argument = ['"'] ++ (word ++ ['"']) := by
      rw [Text.dropBeginning?_eq_some_iff.mp htail, Text.dropEnding?_eq_some_iff.mp hend]
    split_ifs at h with hconfig hsystem huser
    · cases h
      rw [hargument, hconfig]
      rfl
    · cases h
      rw [hargument, hsystem]
      rfl
    · cases h
      rw [hargument, huser]
      rfl

theorem sectionOf_marked (p : Passage) : sectionOf p.marked = .ok p.body := by
  simp [sectionOf, Passage.marked, Passage.body, roleOf_quoted, Except.map]

variable {marked : List (List Char × List Segment)}

theorem mapM_sectionOf (ps : List Passage) :
    (ps.map Passage.marked).mapM sectionOf = .ok (ps.map Passage.body) := by
  induction ps with
  | nil =>
      rfl
  | cons p rest ih =>
      rw [List.map_cons, List.mapM_cons, sectionOf_marked, ih]
      rfl

/-- One marker that names no role spoils all sections. -/
theorem mapM_sectionOf_of_bad {x : List Char × List Segment} (hx : x ∈ marked)
    (hbad : ∀ r : Role, x.1 ≠ r.quoted) :
    ∃ fault, marked.mapM sectionOf = .error fault := by
  induction marked with
  | nil =>
      cases hx
  | cons y rest ih =>
      cases hy : roleOf y.1 with
      | error fault =>
          refine ⟨fault, ?_⟩
          simp [List.mapM_cons, sectionOf, hy, Except.map, bind, Except.bind]
      | ok r =>
          have hrest : x ∈ rest := by
            rcases List.mem_cons.mp hx with rfl | hrest
            · exact absurd (eq_quoted_of_roleOf hy) (hbad r)
            · exact hrest
          obtain ⟨fault, hfault⟩ := ih hrest
          refine ⟨fault, ?_⟩
          simp [List.mapM_cons, sectionOf, hy, hfault, Except.map, bind, Except.bind]

/-- Markers that name roles begin passages. -/
theorem exists_passages (h : ∀ x ∈ marked, ∃ r : Role, x.1 = r.quoted) :
    ∃ ps : List Passage, marked = ps.map Passage.marked := by
  induction marked with
  | nil =>
      exact ⟨[], rfl⟩
  | cons x rest ih =>
      obtain ⟨r, hr⟩ := h x (by simp)
      obtain ⟨ps, rfl⟩ := ih fun y hy => h y (by simp [hy])
      exact ⟨⟨r, x.2⟩ :: ps, by simp [Passage.marked, ← hr]⟩

end Markers

section Parts

variable {ps : List Passage}

/-- A passage of the user: its media are taken out, then the other passages are read. -/
theorem textParts_cons_of_user {p : Passage} (hrole : p.role = .user) (names : List String)
    (rest : List Section) :
    textParts names (p.body :: rest) =
      liftMedia names (Text.trim (Segment.render p.segments)) >>= fun lifted =>
        (textParts lifted.2 rest).map fun (parts, names) =>
          (Part.user (String.ofList lifted.1) :: parts, names) := by
  simp only [textParts, Passage.body, hrole]
  rfl

theorem textParts_cons_of_other {p : Passage} (hrole : p.role ≠ .user) (names : List String)
    (rest : List Section) :
    textParts names (p.body :: rest) =
      (textParts names rest).map fun (parts, names) => (p.part :: parts, names) := by
  rw [Passage.part_of_other hrole]
  cases h : p.role with
  | user => exact absurd h hrole
  | config => simp only [textParts, Passage.body, h]
  | system => simp only [textParts, Passage.body, h]

theorem textParts_of_references (hstable : ∀ p ∈ ps, Stable p.segments)
    (h : ∀ p ∈ ps, ∀ a ∈ p.media, ∃ name, mediaName? a = some name) (names : List String) :
    textParts names (ps.map Passage.body) =
      .ok (ps.map Passage.part, (ps.flatMap Passage.names).foldl addNew names) := by
  induction ps generalizing names with
  | nil =>
      rfl
  | cons p rest ih =>
      obtain ⟨hp, hrest⟩ := List.forall_mem_cons.mp h
      obtain ⟨hpstable, hreststable⟩ := List.forall_mem_cons.mp hstable
      have ih := ih hreststable hrest
      by_cases hrole : p.role = .user
      · rw [Passage.media_of_user hrole] at hp
        have hnames : p.names = references p.segments := by
          rw [Passage.names, Passage.media_of_user hrole, references]
        rw [List.map_cons, textParts_cons_of_user hrole,
          liftMedia_of_references hpstable hp]
        simp [bind, Except.bind, ih, Except.map, Passage.part_of_user hrole, hnames]
      · have hnames : p.names = [] := by
          rw [Passage.names, Passage.media_of_other hrole]
          rfl
        rw [List.map_cons, textParts_cons_of_other hrole, ih]
        simp [Except.map, hnames]

theorem textParts_of_unreferenced (hstable : ∀ p ∈ ps, Stable p.segments)
    {p : Passage} (hp : p ∈ ps) {a : List Char} (ha : a ∈ p.media) (hnone : mediaName? a = none)
    (names : List String) :
    ∃ fault, textParts names (ps.map Passage.body) = .error fault := by
  induction ps generalizing names with
  | nil =>
      cases hp
  | cons q rest ih =>
      obtain ⟨hqstable, hreststable⟩ := List.forall_mem_cons.mp hstable
      rw [List.map_cons]
      by_cases hrole : q.role = .user
      · rw [textParts_cons_of_user hrole]
        cases hlift : liftMedia names (Text.trim (Segment.render q.segments)) with
        | error fault =>
            exact ⟨fault, rfl⟩
        | ok lifted =>
            have hrest : p ∈ rest := by
              rcases List.mem_cons.mp hp with rfl | hrest
              · rw [Passage.media_of_user hrole] at ha
                obtain ⟨fault, hfault⟩ := liftMedia_of_unreferenced hqstable ha hnone names
                rw [hlift] at hfault
                cases hfault
              · exact hrest
            obtain ⟨fault, hfault⟩ := ih hreststable hrest lifted.2
            exact ⟨fault, by simp [bind, Except.bind, hfault, Except.map]⟩
      · have hrest : p ∈ rest := by
          rcases List.mem_cons.mp hp with rfl | hrest
          · rw [Passage.media_of_other hrole] at ha
            cases ha
          · exact hrest
        obtain ⟨fault, hfault⟩ := ih hreststable hrest names
        rw [textParts_cons_of_other hrole, hfault]
        exact ⟨fault, rfl⟩

end Parts

section Documents

variable {cs : List Char} {ps : List Passage}

theorem ofSections_of_textParts {ss : List Section} {parts : List Part} {names : List String}
    (h : textParts [] ss = .ok (parts, names)) (now : Timestamp) (stem : Option String) :
    ∃ t, ofSections now stem ss = .ok t ∧
      t.parts = parts ++ names.map mediaPart ∧ t.declarations = names.map mediaVariable := by
  unfold ofSections
  rw [h]
  exact ⟨_, rfl, rfl, rfl⟩

theorem stable_of_cut (hcut : (cut (scan cs)).2 = ps.map Passage.marked) :
    ∀ p ∈ ps, Stable p.segments := by
  intro p hp
  have hmem : p.marked ∈ (cut (scan cs)).2 := by
    rw [hcut]
    exact List.mem_map_of_mem hp
  exact cut_stable cs p.marked hmem

/-- A document whose markers name roles and whose media blocks refer to variables. -/
theorem read_of_passages (hcut : (cut (scan cs)).2 = ps.map Passage.marked)
    (h : ∀ p ∈ ps, ∀ a ∈ p.media, ∃ name, mediaName? a = some name)
    (now : Timestamp) (stem : Option String) :
    ∃ t, Legacy.read now stem cs = .ok t ∧
      t.parts = ps.map Passage.part ++
        (Placeholder.distinct (ps.flatMap Passage.names)).map mediaPart ∧
      t.declarations =
        (Placeholder.distinct (ps.flatMap Passage.names)).map mediaVariable := by
  have hstable := stable_of_cut hcut
  have hsections : sections cs = .ok (ps.map Passage.body) := by
    rw [sections, hcut, mapM_sectionOf]
  obtain ⟨t, ht, hparts, hdeclarations⟩ :=
    ofSections_of_textParts (textParts_of_references hstable h []) now stem
  refine ⟨t, ?_, hparts, hdeclarations⟩
  unfold Legacy.read
  rw [hsections]
  exact ht

end Documents

end Legacy
end PromptBook

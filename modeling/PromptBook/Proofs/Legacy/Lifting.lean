import PromptBook.Proofs.Legacy.Scanning

/-!
# Taking media out of a section

The media blocks of a section, the variables they refer to, and the text that is left without them.
It makes no difference whether white space at the ends of a section goes before or after the media
blocks do.

**Results.**
* `mediaName?_eq_some_iff`: what the argument of a media block looks like.
* `liftMedia_of_references`: every media block refers to a variable.
* `liftMedia_of_unreferenced`: one of them does not.
-/

namespace PromptBook
namespace Legacy

open Placeholder (addNew isIdentifier)

variable {segments : List Segment}

/-- The argument of a media block refers to a variable. -/
def RefersTo (argument : List Char) (name : String) : Prop :=
  ∃ rest, argument = "url=".toList ++ rest ∧
    name.toList = Text.unquote (Text.trim rest) ∧ isIdentifier name.toList = true

theorem mediaName?_eq_some_iff {argument : List Char} {name : String} :
    mediaName? argument = some name ↔ RefersTo argument name := by
  unfold mediaName? RefersTo
  constructor
  · intro h
    split at h
    · rename_i rest hrest
      simp only at h
      split at h
      · rename_i hid
        cases h
        refine ⟨rest, Text.dropBeginning?_eq_some_iff.mp hrest, ?_, ?_⟩
        · simp
        · simpa using hid
      · cases h
    · cases h
  · rintro ⟨rest, rfl, hname, hid⟩
    rw [Text.dropBeginning?_append]
    simp only [← hname, hid, if_true]
    simp

section Segments

/-- The arguments of the media blocks among segments. -/
def mediaArguments (segments : List Segment) : List (List Char) :=
  segments.filterMap mediaArgument?

/-- The variables that media blocks among segments refer to. -/
def references (segments : List Segment) : List String :=
  (mediaArguments segments).filterMap mediaName?

/-- The text of a segment, unless it is a media block. -/
def keptText (segment : Segment) : List Char :=
  match mediaArgument? segment with
  | some _ => []
  | none => segment.text

/-- The text of segments without the media blocks. -/
def withoutMedia (segments : List Segment) : List Char :=
  segments.flatMap keptText

theorem withoutMedia_cons_of_media {segment : Segment} {argument : List Char}
    (h : mediaArgument? segment = some argument) (rest : List Segment) :
    withoutMedia (segment :: rest) = withoutMedia rest := by
  simp [withoutMedia, keptText, h]

theorem withoutMedia_cons_of_other {segment : Segment} (h : mediaArgument? segment = none)
    (rest : List Segment) :
    withoutMedia (segment :: rest) = segment.text ++ withoutMedia rest := by
  simp [withoutMedia, keptText, h]

theorem mediaArguments_cons_of_media {segment : Segment} {argument : List Char}
    (h : mediaArgument? segment = some argument) (rest : List Segment) :
    mediaArguments (segment :: rest) = argument :: mediaArguments rest := by
  simp [mediaArguments, h]

theorem mediaArguments_cons_of_other {segment : Segment} (h : mediaArgument? segment = none)
    (rest : List Segment) :
    mediaArguments (segment :: rest) = mediaArguments rest := by
  simp [mediaArguments, h]

theorem mediaArguments_map_char (cs : List Char) :
    mediaArguments (cs.map .char) = [] := by
  simp [mediaArguments, mediaArgument?]

theorem withoutMedia_map_char (cs : List Char) :
    withoutMedia (cs.map .char) = cs := by
  induction cs with
  | nil =>
      rfl
  | cons c cs ih =>
      have hcons : withoutMedia ((c :: cs).map .char) = c :: withoutMedia (cs.map .char) := rfl
      rw [hcons, ih]

theorem mediaArguments_append (a b : List Segment) :
    mediaArguments (a ++ b) = mediaArguments a ++ mediaArguments b :=
  List.filterMap_append

theorem withoutMedia_append (a b : List Segment) :
    withoutMedia (a ++ b) = withoutMedia a ++ withoutMedia b :=
  List.flatMap_append

theorem liftSegments_of_references
    (h : ∀ a ∈ mediaArguments segments, ∃ name, mediaName? a = some name) (names : List String) :
    liftSegments names segments =
      .ok (withoutMedia segments, (references segments).foldl addNew names) := by
  induction segments generalizing names with
  | nil =>
      rfl
  | cons s rest ih =>
      cases hs : mediaArgument? s with
      | none =>
          have hrest : ∀ a ∈ mediaArguments rest, ∃ name, mediaName? a = some name := by
            simpa [mediaArguments, hs] using h
          simp [liftSegments, hs, ih hrest, Except.map, withoutMedia, references, mediaArguments,
            keptText]
      | some argument =>
          simp only [mediaArguments, List.filterMap_cons, hs, List.mem_cons, forall_eq_or_imp] at h
          obtain ⟨⟨name, hname⟩, hrest⟩ := h
          simp [liftSegments, hs, hname, ih hrest, withoutMedia, references, mediaArguments,
            keptText]

theorem liftSegments_of_unreferenced {a : List Char} (ha : a ∈ mediaArguments segments)
    (hnone : mediaName? a = none) (names : List String) :
    ∃ fault, liftSegments names segments = .error fault := by
  induction segments generalizing names with
  | nil =>
      cases ha
  | cons s rest ih =>
      cases hs : mediaArgument? s with
      | none =>
          have harest : a ∈ mediaArguments rest := by
            simpa [mediaArguments, hs] using ha
          obtain ⟨fault, hfault⟩ := ih harest names
          exact ⟨fault, by simp [liftSegments, hs, hfault, Except.map]⟩
      | some argument =>
          cases hname : mediaName? argument with
          | none =>
              exact ⟨_, by simp only [liftSegments, hs, hname]; rfl⟩
          | some name =>
              simp only [mediaArguments, List.filterMap_cons, hs, List.mem_cons] at ha
              have harest : a ∈ mediaArguments rest := by
                rcases ha with rfl | ha
                · rw [hname] at hnone
                  cases hnone
                · exact ha
              obtain ⟨fault, hfault⟩ := ih harest (addNew names name)
              exact ⟨fault, by simp [liftSegments, hs, hname, hfault]⟩

end Segments

section Bodies

/-- White space at the ends of a section has no part in what is lifted. -/
theorem mediaArguments_scan_trim (h : Stable segments) :
    mediaArguments (scan (Text.trim (Segment.render segments))) = mediaArguments segments := by
  obtain ⟨trail, _, hscan⟩ := scan_trim (Segment.render segments)
  rw [h] at hscan
  conv_rhs => rw [hscan]
  simp [mediaArguments_append, mediaArguments_map_char]

theorem trim_withoutMedia_scan_trim (h : Stable segments) :
    Text.trim (withoutMedia (scan (Text.trim (Segment.render segments)))) =
      Text.trim (withoutMedia segments) := by
  obtain ⟨trail, htrail, hscan⟩ := scan_trim (Segment.render segments)
  rw [h] at hscan
  conv_rhs => rw [hscan]
  simp only [withoutMedia_append, withoutMedia_map_char]
  exact (Text.trimOf_append (fun c hc => List.mem_takeWhile_imp hc) htrail _).symm

theorem liftMedia_of_references (hstable : Stable segments)
    (h : ∀ a ∈ mediaArguments segments, ∃ name, mediaName? a = some name)
    (names : List String) :
    liftMedia names (Text.trim (Segment.render segments)) =
      .ok (Text.trim (withoutMedia segments), (references segments).foldl addNew names) := by
  have harguments := mediaArguments_scan_trim hstable
  have hlift := liftSegments_of_references (harguments ▸ h) names
  unfold liftMedia
  rw [hlift]
  simp only [Except.map, references, harguments, trim_withoutMedia_scan_trim hstable]

theorem liftMedia_of_unreferenced (hstable : Stable segments) {a : List Char}
    (ha : a ∈ mediaArguments segments) (hnone : mediaName? a = none) (names : List String) :
    ∃ fault, liftMedia names (Text.trim (Segment.render segments)) = .error fault := by
  rw [← mediaArguments_scan_trim hstable] at ha
  obtain ⟨fault, hfault⟩ := liftSegments_of_unreferenced ha hnone names
  exact ⟨fault, by simp [liftMedia, hfault, Except.map]⟩

end Bodies

end Legacy
end PromptBook

import PromptBook.Proofs.Legacy.Places
import PromptBook.Proofs.Itemwise

/-!
# Sections where they stand

A section begins where its role marker ends.  It goes on to where the next marker begins, or to the
end of the text, and its body is what stands there without the white space at the ends.  A body is
scanned again by itself.  That makes no difference: no block reaches over the ends of a section, and
neither an opener that was left before it nor one that the next marker cuts short has a say in it.
So the blocks of the body are those that the scan of the whole text finds there.

**Results.**
* `forall₂_cut`: the segments between two markers stand between their offsets.
* `blocks_eq_filter`: the blocks of a body are those of the text between the markers.
* `sectioning_commutes_with_scanning`: the sections of a text, and the blocks after a marker.
-/

namespace PromptBook
namespace Legacy

open Text (size size_append slice slice_append)

variable {cs : List Char} {segments : List Segment} {finish offset : Nat}

section Regions

/-- What a block says about the role of the text after it. -/
def Placed.role? (b : Placed) : Option (List Char) :=
  roleArgument? (.block b.inner)

/-- The same block in a text that begins at an offset of another. -/
def Placed.shift (offset : Nat) (b : Placed) : Placed :=
  ⟨offset + b.start, offset + b.stop, b.inner⟩

/-- A section at its place: what its marker says, where the marker ends, and where the next marker
begins or the text ends. -/
structure Region where
  argument : List Char
  start : Nat
  stop : Nat

/-- Where the first role marker among some blocks begins, or else where the text ends. -/
def firstMarker (finish : Nat) (blocks : List Placed) : Nat :=
  ((blocks.find? fun b => b.role?.isSome).map Placed.start).getD finish

/-- The regions of the role markers among some blocks of a text that ends at `finish`. -/
def regionsOf (finish : Nat) : List Placed → List Region
  | [] => []
  | b :: rest =>
    match b.role? with
    | some argument => ⟨argument, b.stop, firstMarker finish rest⟩ :: regionsOf finish rest
    | none => regionsOf finish rest

/-- The regions of a text. -/
def regions (cs : List Char) : List Region :=
  regionsOf (size cs) (placed cs)

namespace Region

/-- Whether a block stands between the ends of the region. -/
def holds (r : Region) (b : Placed) : Bool :=
  r.start ≤ b.start && b.stop ≤ r.stop

/-- What stands there, without the white space at its ends. -/
def body (r : Region) (cs : List Char) : List Char :=
  Text.trim (slice r.start r.stop cs)

/-- Where the body begins in the text. -/
def bodyStart (r : Region) (cs : List Char) : Nat :=
  r.start + size ((slice r.start r.stop cs).takeWhile Text.isBlank)

/-- The blocks of the body by itself, at their places in the whole text. -/
def blocks (r : Region) (cs : List Char) : List Placed :=
  (placed (r.body cs)).map (Placed.shift (r.bodyStart cs))

/-- The section of the region. -/
def section? (cs : List Char) (r : Region) : Except FormatFault Section :=
  (roleOf r.argument).map (⟨·, r.body cs⟩)

theorem holds_iff {r : Region} {b : Placed} :
    r.holds b = true ↔ r.start ≤ b.start ∧ b.stop ≤ r.stop := by
  simp [holds]

end Region

theorem regionsOf_cons_of_marker {b : Placed} {argument : List Char}
    (h : b.role? = some argument) (finish : Nat) (rest : List Placed) :
    regionsOf finish (b :: rest) =
      ⟨argument, b.stop, firstMarker finish rest⟩ :: regionsOf finish rest := by
  simp [regionsOf, h]

theorem regionsOf_cons_of_other {b : Placed} (h : b.role? = none) (finish : Nat)
    (rest : List Placed) : regionsOf finish (b :: rest) = regionsOf finish rest := by
  simp [regionsOf, h]

theorem firstMarker_cons_of_marker {b : Placed} {argument : List Char}
    (h : b.role? = some argument) (finish : Nat) (rest : List Placed) :
    firstMarker finish (b :: rest) = b.start := by
  simp [firstMarker, h]

theorem firstMarker_cons_of_other {b : Placed} (h : b.role? = none) (finish : Nat)
    (rest : List Placed) : firstMarker finish (b :: rest) = firstMarker finish rest := by
  simp [firstMarker, h]

end Regions

section Cutting

/-- A marker's segments stand in the text where its region says, and none of them is a marker. -/
structure Covers (all : List Segment) (marked : List Char × List Segment) (r : Region) : Prop where
  argument : marked.1 = r.argument
  others : ∀ s ∈ marked.2, roleArgument? s = none
  place : ∃ before after, all = before ++ (marked.2 ++ after) ∧
    r.start = size (Segment.render before) ∧ r.stop = r.start + size (Segment.render marked.2)

/-- Up to the first marker there are no markers, and there it begins. -/
theorem exists_cut_fst (offset : Nat) (segments : List Segment) :
    ∃ after, segments = (cut segments).1 ++ after ∧
      (∀ s ∈ (cut segments).1, roleArgument? s = none) ∧
      firstMarker (offset + size (Segment.render segments)) (placedFrom offset segments) =
        offset + size (Segment.render (cut segments).1) := by
  induction segments generalizing offset with
  | nil =>
      exact ⟨[], rfl, by simp [cut], rfl⟩
  | cons s rest ih =>
      cases hs : roleArgument? s with
      | some argument =>
          obtain ⟨inner, rfl⟩ := exists_block_of_roleArgument? hs
          rw [cut_cons_of_marker hs, placedFrom, firstMarker_cons_of_marker (b := ⟨_, _, inner⟩) hs]
          exact ⟨_, rfl, by simp, rfl⟩
      | none =>
          rw [cut_cons_of_other hs]
          obtain ⟨after, hrest, hothers, hfirst⟩ := ih (offset + size s.text)
          refine ⟨after, by rw [List.cons_append, ← hrest], List.forall_mem_cons.mpr ⟨hs, hothers⟩,
            ?_⟩
          rw [render_cons, render_cons, size_append, size_append, ← Nat.add_assoc, ← Nat.add_assoc,
            ← hfirst]
          cases s with
          | char c =>
              rw [size_text_char]
              rfl
          | block inner =>
              rw [size_text_block, ← Nat.add_assoc]
              exact firstMarker_cons_of_other (b := ⟨_, _, inner⟩) hs _ _

/-- The regions of a text are those of what stands between its markers. -/
theorem forall₂_cut (left segments : List Segment) :
    List.Forall₂ (Covers (left ++ segments)) (cut segments).2
      (regionsOf (size (Segment.render (left ++ segments)))
        (placedFrom (size (Segment.render left)) segments)) := by
  -- Along the segments; what was passed over stands on the left, and its size is the offset.
  induction segments generalizing left with
  | nil =>
      exact List.Forall₂.nil
  | cons s rest ih =>
      have hnext := ih (left ++ [s])
      have hsize : size (Segment.render (left ++ [s])) =
          size (Segment.render left) + size s.text := by
        rw [render_append, size_append, render_cons, size_append]
        rfl
      rw [List.append_assoc, List.singleton_append, hsize] at hnext
      cases hs : roleArgument? s with
      | none =>
          rw [cut_cons_of_other hs]
          cases s with
          | char c =>
              rw [size_text_char] at hnext
              exact hnext
          | block inner =>
              rw [size_text_block, ← Nat.add_assoc] at hnext
              rw [placedFrom, regionsOf_cons_of_other (b := ⟨_, _, inner⟩) hs]
              exact hnext
      | some argument =>
          obtain ⟨inner, rfl⟩ := exists_block_of_roleArgument? hs
          rw [cut_cons_of_marker hs, placedFrom, regionsOf_cons_of_marker (b := ⟨_, _, inner⟩) hs]
          rw [size_text_block, ← Nat.add_assoc] at hnext hsize
          obtain ⟨after, hrest, hothers, hfirst⟩ :=
            exists_cut_fst (size (Segment.render (left ++ [.block inner]))) rest
          have hall : left ++ .block inner :: rest = left ++ [.block inner] ++ rest := by simp
          refine List.Forall₂.cons ⟨rfl, hothers, left ++ [.block inner], after, ?_, hsize.symm, ?_⟩
            hnext
          · rw [hall, ← hrest]
          · rw [hall, render_append, size_append, ← hsize]
            exact hfirst

end Cutting

section Bodies

variable {marked : List Char × List Segment} {r : Region} {b : Placed}

theorem placedFrom_add (offset n : Nat) (segments : List Segment) :
    placedFrom (offset + n) segments = (placedFrom n segments).map (Placed.shift offset) := by
  induction segments generalizing n with
  | nil =>
      rfl
  | cons s rest ih =>
      cases s with
      | char c =>
          rw [placedFrom, placedFrom, Nat.add_assoc, ih]
      | block inner =>
          have hstop : offset + n + size inner + 4 = offset + (n + size inner + 4) := by
            omega
          rw [placedFrom, placedFrom, hstop, ih]
          rfl

/-- What stands in the text where the region says. -/
theorem Covers.slice_eq (h : Covers (scan cs) marked r) :
    slice r.start r.stop cs = Segment.render marked.2 := by
  obtain ⟨before, after, hall, hstart, hstop⟩ := h.place
  have hcs := render_scan cs
  rw [hall, render_append, render_append] at hcs
  rw [hstop, hstart, ← hcs, slice_append]

theorem Covers.body_eq (h : Covers (scan cs) marked r) :
    r.body cs = Text.trim (Segment.render marked.2) := by
  rw [Region.body, h.slice_eq]

/-- Between the ends of its region the text has the blocks of the marker's segments. -/
theorem Covers.filter_holds (h : Covers (scan cs) marked r) :
    (placed cs).filter r.holds = placedFrom r.start marked.2 := by
  obtain ⟨before, after, hall, hstart, hstop⟩ := h.place
  have hsplit : placed cs = placedFrom 0 before ++
      (placedFrom r.start marked.2 ++ placedFrom r.stop after) := by
    rw [placed, hall, placedFrom_append, placedFrom_append, hstop, hstart, Nat.zero_add]
  have hbefore : (placedFrom 0 before).filter r.holds = [] := by
    refine List.filter_eq_nil_iff.mpr fun b hb => ?_
    have hstops := stop_le_of_mem_placedFrom hb
    have hlt := start_lt_stop_of_mem_placedFrom hb
    rw [Region.holds_iff]
    omega
  have hwithin : (placedFrom r.start marked.2).filter r.holds = placedFrom r.start marked.2 := by
    refine List.filter_eq_self.mpr fun b hb => ?_
    have hstarts := le_start_of_mem_placedFrom hb
    have hstops := stop_le_of_mem_placedFrom hb
    rw [Region.holds_iff]
    omega
  have hafter : (placedFrom r.stop after).filter r.holds = [] := by
    refine List.filter_eq_nil_iff.mpr fun b hb => ?_
    have hstarts := le_start_of_mem_placedFrom hb
    have hlt := start_lt_stop_of_mem_placedFrom hb
    rw [Region.holds_iff]
    omega
  rw [hsplit, List.filter_append, List.filter_append, hbefore, hwithin, hafter]
  simp

/-- The blocks of a body are those of the text between the markers. -/
theorem Covers.blocks_eq_filter (h : Covers (scan cs) marked r) (hstable : Stable marked.2) :
    r.blocks cs = (placed cs).filter r.holds := by
  obtain ⟨trail, _, hscan⟩ := scan_trim (Segment.render marked.2)
  have hsegments : marked.2 = ((Segment.render marked.2).takeWhile Text.isBlank).map .char ++
      (scan (r.body cs) ++ trail.map .char) := by
    rw [h.body_eq, ← hscan, hstable]
  have hplaced : placedFrom r.start marked.2 = placedFrom (r.bodyStart cs) (scan (r.body cs)) := by
    rw [Region.bodyStart, h.slice_eq]
    conv_lhs => rw [hsegments]
    rw [placedFrom_append, placedFrom_append, placedFrom_map_char, placedFrom_map_char,
      render_map_char]
    simp
  rw [h.filter_holds, hplaced]
  exact (placedFrom_add _ 0 _).symm

/-- No marker stands in a body. -/
theorem Covers.not_hasMarker (h : Covers (scan cs) marked r) (hstable : Stable marked.2) :
    hasMarker (r.body cs) = false := by
  obtain ⟨trail, _, hscan⟩ := scan_trim (Segment.render marked.2)
  rw [hstable, ← h.body_eq] at hscan
  refine List.any_eq_false.mpr fun s hs => ?_
  have hmem : s ∈ marked.2 := by
    rw [hscan]
    exact List.mem_append_right _ (List.mem_append_left _ hs)
  simp [h.others s hmem]

/-- A body stands in the text where it is said to begin. -/
theorem Covers.slice_body (h : Covers (scan cs) marked r) :
    slice (r.bodyStart cs) (r.bodyStart cs + size (r.body cs)) cs = r.body cs := by
  obtain ⟨before, after, hall, hstart, _⟩ := h.place
  obtain ⟨trail, _, htext⟩ := Text.exists_trail Text.isBlank (Segment.render marked.2)
  have hcs := render_scan cs
  rw [hall, render_append, render_append, htext] at hcs
  have hparts : cs = (Segment.render before ++
      (Segment.render marked.2).takeWhile Text.isBlank) ++
        (r.body cs ++ (trail ++ Segment.render after)) := by
    rw [h.body_eq, ← hcs]
    simp [Text.trim]
  have hbody : r.bodyStart cs = size (Segment.render before ++
      (Segment.render marked.2).takeWhile Text.isBlank) := by
    rw [Region.bodyStart, h.slice_eq, size_append, hstart]
  have hslice := slice_append (Segment.render before ++
    (Segment.render marked.2).takeWhile Text.isBlank) (r.body cs) (trail ++ Segment.render after)
  rw [← hparts, ← hbody] at hslice
  exact hslice

end Bodies

section Order

variable {blocks : List Placed} {b m : Placed} {r : Region}

/-- Blocks that stand one after the other in a text that ends at `finish`. -/
structure InOrder (finish : Nat) (blocks : List Placed) : Prop where
  apart : blocks.Pairwise fun a b => a.stop ≤ b.start
  within : ∀ b ∈ blocks, b.start < b.stop ∧ b.stop ≤ finish

theorem inOrder_placed (cs : List Char) : InOrder (size cs) (placed cs) where
  apart := pairwise_placedFrom 0 (scan cs)
  within b hb := by
    have hstop := stop_le_of_mem_placedFrom hb
    rw [render_scan, Nat.zero_add] at hstop
    exact ⟨start_lt_stop_of_mem_placedFrom hb, hstop⟩

theorem InOrder.tail {rest : List Placed} (h : InOrder finish (b :: rest)) :
    InOrder finish rest :=
  ⟨h.apart.of_cons, fun a ha => h.within a (List.mem_cons_of_mem _ ha)⟩

theorem InOrder.stop_le {rest : List Placed} (h : InOrder finish (b :: rest)) (hm : m ∈ rest) :
    b.stop ≤ m.start :=
  List.rel_of_pairwise_cons h.apart hm

/-- No marker begins before the first one. -/
theorem InOrder.firstMarker_le (h : InOrder finish blocks) (hm : m ∈ blocks)
    (hmarker : m.role? ≠ none) : firstMarker finish blocks ≤ m.start := by
  induction blocks with
  | nil =>
      cases hm
  | cons x rest ih =>
      cases hx : x.role? with
      | some argument =>
          rw [firstMarker_cons_of_marker hx]
          rcases List.mem_cons.mp hm with rfl | hm
          · exact le_rfl
          · have hlt := (h.within x List.mem_cons_self).1
            have hle := h.stop_le hm
            omega
      | none =>
          rw [firstMarker_cons_of_other hx]
          rcases List.mem_cons.mp hm with rfl | hm
          · exact absurd hx hmarker
          · exact ih h.tail hm

theorem firstMarker_cases (finish : Nat) (blocks : List Placed) :
    firstMarker finish blocks = finish ∨
      ∃ m ∈ blocks, m.role? ≠ none ∧ firstMarker finish blocks = m.start := by
  induction blocks with
  | nil =>
      exact .inl rfl
  | cons x rest ih =>
      cases hx : x.role? with
      | some argument =>
          rw [firstMarker_cons_of_marker hx]
          exact .inr ⟨x, List.mem_cons_self, by simp [hx], rfl⟩
      | none =>
          rw [firstMarker_cons_of_other hx]
          rcases ih with hfinish | ⟨m, hm, hmarker, hfirst⟩
          · exact .inl hfinish
          · exact .inr ⟨m, List.mem_cons_of_mem _ hm, hmarker, hfirst⟩

/-- A region begins where a marker ends. -/
theorem exists_marker_of_mem_regionsOf (h : r ∈ regionsOf finish blocks) :
    ∃ m ∈ blocks, m.role? = some r.argument ∧ r.start = m.stop := by
  induction blocks with
  | nil =>
      cases h
  | cons x rest ih =>
      cases hx : x.role? with
      | some argument =>
          rw [regionsOf_cons_of_marker hx] at h
          rcases List.mem_cons.mp h with rfl | h
          · exact ⟨x, List.mem_cons_self, hx, rfl⟩
          · obtain ⟨m, hm, hmarker⟩ := ih h
            exact ⟨m, List.mem_cons_of_mem _ hm, hmarker⟩
      | none =>
          rw [regionsOf_cons_of_other hx] at h
          obtain ⟨m, hm, hmarker⟩ := ih h
          exact ⟨m, List.mem_cons_of_mem _ hm, hmarker⟩

/-- Regions stand one after the other. -/
theorem InOrder.pairwise_regionsOf (h : InOrder finish blocks) :
    (regionsOf finish blocks).Pairwise fun r r' => r.stop ≤ r'.start := by
  induction blocks with
  | nil =>
      exact List.Pairwise.nil
  | cons x rest ih =>
      cases hx : x.role? with
      | none =>
          rw [regionsOf_cons_of_other hx]
          exact ih h.tail
      | some argument =>
          rw [regionsOf_cons_of_marker hx]
          refine List.pairwise_cons.mpr ⟨fun r hr => ?_, ih h.tail⟩
          obtain ⟨m, hm, hmarker, hstart⟩ := exists_marker_of_mem_regionsOf hr
          have hfirst := h.tail.firstMarker_le hm (by simp [hmarker])
          have hlt := (h.tail.within m hm).1
          show firstMarker finish rest ≤ r.start
          omega

/-- A block after a marker is in a region, unless it is a marker itself. -/
theorem InOrder.exists_region (h : InOrder finish blocks) (hb : b ∈ blocks)
    (hother : b.role? = none) (hm : m ∈ blocks) (hmarker : m.role? ≠ none)
    (hafter : m.stop ≤ b.start) : ∃ r ∈ regionsOf finish blocks, r.holds b = true := by
  induction blocks generalizing m with
  | nil =>
      cases hb
  | cons x rest ih =>
      cases hx : x.role? with
      | none =>
          rw [regionsOf_cons_of_other hx]
          have hmrest : m ∈ rest := by
            rcases List.mem_cons.mp hm with rfl | hm
            · exact absurd hx hmarker
            · exact hm
          rcases List.mem_cons.mp hb with rfl | hbrest
          · -- The first block has no marker before it.
            have hle := h.stop_le hmrest
            have hmlt := (h.within m hm).1
            have hblt := (h.within b hb).1
            omega
          · exact ih h.tail hbrest hmrest hmarker hafter
      | some argument =>
          rw [regionsOf_cons_of_marker hx]
          have hbrest : b ∈ rest := by
            rcases List.mem_cons.mp hb with rfl | hb
            · rw [hother] at hx
              cases hx
            · exact hb
          have hle := (h.within b hb).2
          -- Either the next marker is before the block, or the block is before the next marker.
          rcases firstMarker_cases finish rest with hfirst | ⟨next, hnext, hrole, hfirst⟩
          · have hstart := h.stop_le hbrest
            refine ⟨_, List.mem_cons_self, Region.holds_iff.mpr ⟨hstart, ?_⟩⟩
            rwa [hfirst]
          · have hne : next ≠ b := by
              rintro rfl
              exact hrole hother
            rcases apart_of_ne h.tail.apart hnext hbrest hne with hbefore | hbehind
            · obtain ⟨r, hr, hholds⟩ := ih h.tail hbrest hnext hrole hbefore
              exact ⟨r, List.mem_cons_of_mem _ hr, hholds⟩
            · have hstart := h.stop_le hbrest
              refine ⟨_, List.mem_cons_self, Region.holds_iff.mpr ⟨hstart, ?_⟩⟩
              rwa [hfirst]

/-- No block is in two regions. -/
theorem InOrder.eq_of_holds (h : InOrder finish blocks) {i j : Nat} {r r' : Region}
    (hr : (regionsOf finish blocks)[i]? = some r) (hr' : (regionsOf finish blocks)[j]? = some r')
    (hlt : b.start < b.stop) (hholds : r.holds b = true) (hholds' : r'.holds b = true) :
    i = j := by
  rw [Region.holds_iff] at hholds hholds'
  obtain ⟨hi, rfl⟩ := List.getElem?_eq_some_iff.mp hr
  obtain ⟨hj, rfl⟩ := List.getElem?_eq_some_iff.mp hr'
  have hpair := List.pairwise_iff_getElem.mp h.pairwise_regionsOf
  rcases Nat.lt_trichotomy i j with hij | rfl | hji
  · have hle := hpair i j hi hj hij
    omega
  · rfl
  · have hle := hpair j i hj hi hji
    omega

end Order

section Sectioning

variable {r : Region}

theorem forall₂_regions (cs : List Char) :
    List.Forall₂ (Covers (scan cs)) (cut (scan cs)).2 (regions cs) := by
  have h := forall₂_cut [] (scan cs)
  rw [List.nil_append, render_scan] at h
  exact h

theorem exists_covers (h : r ∈ regions cs) :
    ∃ marked, Covers (scan cs) marked r ∧ Stable marked.2 := by
  obtain ⟨marked, hmarked, hcovers⟩ := Itemwise.exists_left (forall₂_regions cs) h
  exact ⟨marked, hcovers, cut_stable cs marked hmarked⟩

/-- The sections of a text are those of its regions. -/
theorem sections_eq (cs : List Char) : sections cs = (regions cs).mapM (Region.section? cs) := by
  have hmap : (cut (scan cs)).2.map sectionOf = (regions cs).map (Region.section? cs) := by
    refine Itemwise.map_eq_map (fun hcovers => ?_) (forall₂_regions cs)
    rw [sectionOf, Region.section?, hcovers.argument, hcovers.body_eq]
  have hmapM := congrArg (List.mapM id) hmap
  rw [List.mapM_map, List.mapM_map] at hmapM
  exact hmapM

/--
The sections of a text are those of its regions, in their order.  Each body stands in the text where
its region says; its blocks, found by scanning the body alone, are at their places in the text
exactly the blocks that the scan of the text finds between the two markers; and it holds no marker.
A block after a marker that is no marker itself is in the body of one region, and of no other.
-/
theorem sectioning_commutes_with_scanning (cs : List Char) :
    sections cs = (regions cs).mapM (Region.section? cs) ∧
      (∀ r ∈ regions cs,
        slice (r.bodyStart cs) (r.bodyStart cs + size (r.body cs)) cs = r.body cs ∧
          r.blocks cs = (placed cs).filter r.holds ∧ hasMarker (r.body cs) = false) ∧
      (∀ m ∈ placed cs, m.role? ≠ none →
        ∀ b ∈ placed cs, b.role? = none → m.stop ≤ b.start →
          ∃! i : Nat, ∃ r : Region, (regions cs)[i]? = some r ∧ b ∈ r.blocks cs) := by
  have hblocks : ∀ r ∈ regions cs, r.blocks cs = (placed cs).filter r.holds := by
    intro r hr
    obtain ⟨marked, hcovers, hstable⟩ := exists_covers hr
    exact hcovers.blocks_eq_filter hstable
  refine ⟨sections_eq cs, fun r hr => ?_, fun m hm hmarker b hb hother hafter => ?_⟩
  · obtain ⟨marked, hcovers, hstable⟩ := exists_covers hr
    exact ⟨hcovers.slice_body, hblocks r hr, hcovers.not_hasMarker hstable⟩
  · have horder := inOrder_placed cs
    have hlt := (horder.within b hb).1
    obtain ⟨r, hr, hholds⟩ := horder.exists_region hb hother hm hmarker hafter
    obtain ⟨i, hi⟩ := List.mem_iff_getElem?.mp hr
    refine ⟨i, ⟨r, hi, ?_⟩, ?_⟩
    · rw [hblocks r hr]
      exact List.mem_filter.mpr ⟨hb, hholds⟩
    · rintro j ⟨r', hj, hmem⟩
      rw [hblocks r' (List.mem_of_getElem? hj)] at hmem
      exact horder.eq_of_holds hj hi hlt (List.mem_filter.mp hmem).2 hholds

/-- Two sections that end in openers which begin no block, one of them right before a marker. -/
def frayedText : List Char :=
  "\x7b\x7b \x7b\x7brole \"user\"\x7d\x7d see \x7b\x7bé\x7d\x7d \x7b\x7b".toList ++
    "\x7b\x7brole \"system\"\x7d\x7d \x7b\x7b\x7bb\x7d\x7d \x7b\x7b".toList

/-- The marker of the first section. -/
def frayedMarker : Placed :=
  ⟨3, 18, "role \"user\"".toList⟩

/-- The block of the second section. -/
def frayedBlock : Placed :=
  ⟨50, 56, ['{', 'b']⟩

theorem sectioning_of_frayedText :
    sections frayedText = .ok [⟨.user, "see \x7b\x7bé\x7d\x7d \x7b\x7b".toList⟩,
        ⟨.system, "\x7b\x7b\x7bb\x7d\x7d \x7b\x7b".toList⟩] ∧
      frayedMarker ∈ placed frayedText ∧ frayedMarker.role? ≠ none ∧
      frayedBlock ∈ placed frayedText ∧ frayedBlock.role? = none ∧
      frayedMarker.stop ≤ frayedBlock.start ∧
      ∃! i : Nat, ∃ r : Region, (regions frayedText)[i]? = some r ∧
        frayedBlock ∈ r.blocks frayedText := by
  have hmarker : frayedMarker ∈ placed frayedText := by
    decide
  have hrole : frayedMarker.role? ≠ none := by
    decide
  have hblock : frayedBlock ∈ placed frayedText := by
    decide
  have hother : frayedBlock.role? = none := by
    decide
  have hafter : frayedMarker.stop ≤ frayedBlock.start := by
    decide
  obtain ⟨_, _, hone⟩ := sectioning_commutes_with_scanning frayedText
  exact ⟨by decide, hmarker, hrole, hblock, hother, hafter,
    hone frayedMarker hmarker hrole frayedBlock hblock hother hafter⟩

end Sectioning

end Legacy
end PromptBook

import PromptBook.Proofs.Legacy.Relifting
import PromptBook.Proofs.Placeholder.Occurrences
import PromptBook.Proofs.Text.Encoding

/-!
# Where the blocks of a text stand

A block is found at a place: the offset of its first byte in UTF-8, and the offset of the byte after
its last one.  The places of the blocks follow one another as the segments do, so no two of them
overlap, and each is cut out of the text between two characters.  Wherever two opening braces, a text
without braces and two closing braces stand, a block ends with them.  It begins with them, too, or
one brace earlier: where braces are taken in pairs from the left, the second of these opening braces
may be left over.

**Results.**
* `mem_placedFrom_iff`: the blocks of segments, and where they are.
* `pairwise_placedFrom`: one after the other.
* `exists_block_of_occurrence`: the block that ends where a token does.
-/

namespace PromptBook
namespace Legacy

open Placeholder (BraceFree Occurrence isBrace)
open Text (size size_append size_cons)

variable {cs u w inner : List Char} {c d : Char} {segments left right : List Segment} {offset : Nat}

section Sizes

theorem size_text_char (c : Char) : size (Segment.char c).text = c.utf8Size :=
  size_cons c []

theorem size_text_block (inner : List Char) : size (Segment.block inner).text = size inner + 4 := by
  have hopen : '{'.utf8Size = 1 := rfl
  have hclose : size ['}', '}'] = 2 := rfl
  rw [Segment.text, size_cons, size_cons, size_append, hopen, hclose]
  omega

end Sizes

section Places

/-- A block at its place in a text. -/
structure Placed where
  /-- The offset of its first byte. -/
  start : Nat
  /-- The offset of the byte after its last one. -/
  stop : Nat
  inner : List Char
  deriving DecidableEq

/-- The blocks of segments, the first of which stands at an offset. -/
def placedFrom (offset : Nat) : List Segment → List Placed
  | [] => []
  | .char c :: rest => placedFrom (offset + c.utf8Size) rest
  | .block inner :: rest =>
    ⟨offset, offset + size inner + 4, inner⟩ :: placedFrom (offset + size inner + 4) rest

/-- The blocks of a text. -/
def placed (cs : List Char) : List Placed :=
  placedFrom 0 (scan cs)

theorem placedFrom_append (offset : Nat) (left right : List Segment) :
    placedFrom offset (left ++ right) =
      placedFrom offset left ++ placedFrom (offset + size (Segment.render left)) right := by
  induction left generalizing offset with
  | nil =>
      rfl
  | cons s rest ih =>
      rw [render_cons, size_append, ← Nat.add_assoc]
      cases s with
      | char c =>
          rw [size_text_char]
          exact ih _
      | block inner =>
          rw [size_text_block, ← Nat.add_assoc]
          exact congrArg (_ :: ·) (ih _)

theorem placedFrom_map_char (offset : Nat) (cs : List Char) :
    placedFrom offset (cs.map .char) = [] := by
  induction cs generalizing offset with
  | nil => rfl
  | cons c cs ih => exact ih _

/-- The blocks of segments, and where they are. -/
theorem mem_placedFrom_iff {b : Placed} :
    b ∈ placedFrom offset segments ↔
      ∃ left right, segments = left ++ .block b.inner :: right ∧
        b.start = offset + size (Segment.render left) ∧ b.stop = b.start + size b.inner + 4 := by
  constructor
  · intro h
    induction segments generalizing offset with
    | nil =>
        cases h
    | cons s rest ih =>
        cases s with
        | char c =>
            obtain ⟨left, right, rfl, hstart, hstop⟩ := ih h
            refine ⟨.char c :: left, right, rfl, ?_, hstop⟩
            rw [render_cons, size_append, size_text_char]
            omega
        | block inner =>
            rcases List.mem_cons.mp h with rfl | h
            · exact ⟨[], rest, rfl, rfl, rfl⟩
            · obtain ⟨left, right, rfl, hstart, hstop⟩ := ih h
              refine ⟨.block inner :: left, right, rfl, ?_, hstop⟩
              rw [render_cons, size_append, size_text_block]
              omega
  · rintro ⟨left, right, rfl, hstart, hstop⟩
    have hb : b = ⟨offset + size (Segment.render left),
        offset + size (Segment.render left) + size b.inner + 4, b.inner⟩ := by
      rw [← hstart, ← hstop]
    rw [placedFrom_append, hb]
    exact List.mem_append_right _ List.mem_cons_self

theorem le_start_of_mem_placedFrom {b : Placed} (h : b ∈ placedFrom offset segments) :
    offset ≤ b.start := by
  obtain ⟨_, _, _, hstart, _⟩ := mem_placedFrom_iff.mp h
  omega

theorem start_lt_stop_of_mem_placedFrom {b : Placed} (h : b ∈ placedFrom offset segments) :
    b.start < b.stop := by
  obtain ⟨_, _, _, _, hstop⟩ := mem_placedFrom_iff.mp h
  omega

theorem stop_le_of_mem_placedFrom {b : Placed} (h : b ∈ placedFrom offset segments) :
    b.stop ≤ offset + size (Segment.render segments) := by
  obtain ⟨left, right, rfl, hstart, hstop⟩ := mem_placedFrom_iff.mp h
  rw [render_append, render_cons, size_append, size_append, size_text_block]
  omega

/-- Blocks stand one after the other. -/
theorem pairwise_placedFrom (offset : Nat) (segments : List Segment) :
    (placedFrom offset segments).Pairwise fun a b => a.stop ≤ b.start := by
  induction segments generalizing offset with
  | nil =>
      exact List.Pairwise.nil
  | cons s rest ih =>
      cases s with
      | char c => exact ih _
      | block inner =>
          exact List.pairwise_cons.mpr ⟨fun b hb => le_start_of_mem_placedFrom hb, ih _⟩

/-- One of two blocks ends before the other begins. -/
def Placed.Apart (a b : Placed) : Prop :=
  a.stop ≤ b.start ∨ b.stop ≤ a.start

instance : Std.Symm Placed.Apart :=
  ⟨fun _ _ => Or.symm⟩

theorem apart_of_ne {blocks : List Placed} {a b : Placed}
    (h : blocks.Pairwise fun a b => a.stop ≤ b.start) (ha : a ∈ blocks) (hb : b ∈ blocks)
    (hne : a ≠ b) : a.Apart b := by
  have hapart : blocks.Pairwise Placed.Apart := h.imp Or.inl
  exact hapart.forall ha hb hne

/-- A block is known by where it ends. -/
theorem eq_of_stop_eq {a b : Placed} (ha : a ∈ placedFrom offset segments)
    (hb : b ∈ placedFrom offset segments) (h : a.stop = b.stop) : a = b := by
  by_contra hne
  have hastart := start_lt_stop_of_mem_placedFrom ha
  have hbstart := start_lt_stop_of_mem_placedFrom hb
  rcases apart_of_ne (pairwise_placedFrom _ _) ha hb hne with hle | hle <;> omega

end Places

section Braces

/-- Opening braces, taken in pairs from the left, leave at most one alone at the end. -/
theorem paired_or_odd (u : List Char) : Paired u ∨ ∃ v, u = v ++ ['{'] ∧ Paired v := by
  induction u using List.reverseRecOn with
  | nil =>
      exact .inl .nil
  | append_singleton u c ih =>
      by_cases hc : c = '{'
      · subst hc
        rcases ih with hu | ⟨v, rfl, hv⟩
        · exact .inr ⟨u, rfl, hu⟩
        · rw [List.append_assoc]
          exact .inl (hv.append (.pair .nil))
      · rcases ih with hu | ⟨v, rfl, hv⟩
        · exact .inl (hu.append (.cons hc .nil))
        · rw [List.append_assoc]
          exact .inl (hv.append (.single hc (.cons hc .nil)))

theorem scattered_of_braceFree (h : BraceFree w) (d : Char) : Scattered (w ++ [d]) := by
  induction w with
  | nil =>
      exact List.isChain_singleton d
  | cons c w ih =>
      obtain ⟨hc, hw⟩ := List.forall_mem_cons.mp h
      exact List.isChain_cons.mpr ⟨fun _ _ _ => hc, ih hw⟩

/-- An opening brace before a text without braces and a closing brace begins no pair. -/
theorem scattered_cons_of_braceFree (h : BraceFree w) : Scattered ('{' :: w ++ ['}']) := by
  refine List.isChain_cons.mpr ⟨?_, scattered_of_braceFree h '}'⟩
  rintro d hd rfl
  cases w with
  | nil => simp at hd
  | cons c w =>
      obtain rfl : c = '{' := by simpa using hd
      exact absurd (h '{' List.mem_cons_self) (by decide)

/-- No two equal braces stand side by side in a text where they are scattered. -/
theorem Scattered.not_adjacent (h : Scattered (u ++ [d])) (hc : isBrace c = true) :
    ¬[c, c] <:+: u := by
  intro hpair
  have hchain : List.IsChain (fun a b => a = b → isBrace a = false) [c, c] :=
    List.IsChain.infix (List.IsChain.left_of_append h) hpair
  have hno := (List.isChain_cons_cons.mp hchain).1 rfl
  rw [hc] at hno
  cases hno

theorem Spaced.scattered (h : Spaced w (left ++ .block inner :: right)) :
    Scattered (inner ++ ['}']) := by
  induction left generalizing w with
  | nil =>
      exact h.2.1
  | cons s rest ih =>
      cases s with
      | char c => exact ih h
      | block other => exact ih h.2.2

end Braces

section Completeness

/-- Where a token stands, a block ends with it; it begins with the token or one brace earlier. -/
theorem exists_block_of_occurrence (o : Occurrence cs) :
    ∃ left inner right, scan cs = left ++ .block inner :: right ∧
      ((Segment.render left = o.before ∧ inner = o.inner) ∨
        (Segment.render left ++ ['{'] = o.before ∧ inner = '{' :: o.inner)) := by
  obtain ⟨before, token, after, rfl, hfree⟩ := o
  rcases paired_or_odd before with hbefore | ⟨v, rfl, hv⟩
  · refine ⟨scan before, token, scan after, ?_, .inl ⟨render_scan before, rfl⟩⟩
    have hscan := scan_around_block hbefore (scattered_of_braceFree hfree '}') after
    simpa [Segment.text] using hscan
  · refine ⟨scan v, '{' :: token, scan after, ?_, .inr ⟨by rw [render_scan], rfl⟩⟩
    have hscan := scan_around_block hv (scattered_cons_of_braceFree hfree) after
    simpa [Segment.text] using hscan

end Completeness

end Legacy
end PromptBook

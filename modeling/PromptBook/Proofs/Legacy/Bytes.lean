import PromptBook.Proofs.Legacy.Places

/-!
# One pass over the bytes of a text

The blocks of a text can be found in its UTF-8 without decoding it: a brace is one byte, and no byte
of another character is the byte of a brace.  A pass takes two bytes at a time and keeps the offset of
the last opener that it saw, if no closer came after it.  What it finds are the blocks that the text
is cut into, each at its place.

**Results.**
* `spans_bytes`: the pass over the bytes finds the blocks of the text.
* `blocks_sound_and_complete`: where they stand, what is in them, and that no token is passed over.
-/

namespace PromptBook
namespace Legacy

open Placeholder (BraceFree Occurrence isBrace isBrace_eq_false_iff)
open Text (bytes bytes_cons bytes_append size size_append size_cons)

variable {cs inner : List Char} {c : Char} {state : Option (List Char)}
variable {bs rest : List UInt8} {b : UInt8} {opened? : Option Nat} {i : Nat}

section Pass

/-- The byte of an opening brace. -/
def opening : UInt8 := 0x7B

/-- The byte of a closing brace. -/
def closing : UInt8 := 0x7D

/-- The offsets at which blocks begin and end in some bytes, the first of which has an offset.  If an
opener was seen before them, it stands at `opened?`. -/
def spansFrom (opened? : Option Nat) (i : Nat) : List UInt8 → List (Nat × Nat)
  | b :: b' :: rest =>
    if b = opening ∧ b' = opening then spansFrom (some i) (i + 2) rest
    else
      match opened? with
      | some start =>
        if b = closing ∧ b' = closing then (start, i + 2) :: spansFrom none (i + 2) rest
        else spansFrom (some start) (i + 1) (b' :: rest)
      | none => spansFrom none (i + 1) (b' :: rest)
  | _ => []

/-- The offsets at which blocks begin and end. -/
def spans (bs : List UInt8) : List (Nat × Nat) :=
  spansFrom none 0 bs

theorem spansFrom_opener (opened? : Option Nat) (i : Nat) (rest : List UInt8) :
    spansFrom opened? i (opening :: opening :: rest) = spansFrom (some i) (i + 2) rest :=
  if_pos ⟨rfl, rfl⟩

theorem spansFrom_closer (start i : Nat) (rest : List UInt8) :
    spansFrom (some start) i (closing :: closing :: rest) =
      (start, i + 2) :: spansFrom none (i + 2) rest := by
  have hno : ¬(closing = opening ∧ closing = opening) := by
    decide
  exact (if_neg hno).trans (if_pos ⟨rfl, rfl⟩)

/-- A byte that begins no pair of braces is passed over. -/
theorem spansFrom_cons (hopen : b = opening → rest.head? ≠ some opening)
    (hclose : opened?.isSome = true → b = closing → rest.head? ≠ some closing) (i : Nat) :
    spansFrom opened? i (b :: rest) = spansFrom opened? (i + 1) rest := by
  cases rest with
  | nil =>
      rfl
  | cons b' rest =>
      have hopen' : ¬(b = opening ∧ b' = opening) := fun h => hopen h.1 (congrArg some h.2)
      cases opened? with
      | none => exact if_neg hopen'
      | some start =>
          have hclose' : ¬(b = closing ∧ b' = closing) :=
            fun h => hclose rfl h.1 (congrArg some h.2)
          exact (if_neg hopen').trans (if_neg hclose')

/-- Bytes that are no braces are passed over. -/
theorem spansFrom_append (h : ∀ b ∈ bs, b ≠ opening ∧ b ≠ closing) (i : Nat) :
    spansFrom opened? i (bs ++ rest) = spansFrom opened? (i + bs.length) rest := by
  induction bs generalizing i with
  | nil =>
      rfl
  | cons b bs ih =>
      obtain ⟨⟨hopen, hclose⟩, hbs⟩ := List.forall_mem_cons.mp h
      rw [List.cons_append, spansFrom_cons (fun hb => (hopen hb).elim)
        (fun _ hb => (hclose hb).elim), ih hbs, List.length_cons]
      congr 1
      omega

end Pass

section Characters

theorem bytes_opener (cs : List Char) :
    bytes ('{' :: '{' :: cs) = opening :: opening :: bytes cs := rfl

theorem bytes_closer (cs : List Char) :
    bytes ('}' :: '}' :: cs) = closing :: closing :: bytes cs := rfl

theorem encode_ne_brace (h : isBrace c = false) :
    ∀ b ∈ String.utf8EncodeChar c, b ≠ opening ∧ b ≠ closing := by
  obtain ⟨hopen, hclose⟩ := isBrace_eq_false_iff.mp h
  intro b hb
  constructor
  · rintro rfl
    exact hopen (Char.toNat_inj.mp (Text.eq_of_mem_encode (by decide) hb))
  · rintro rfl
    exact hclose (Char.toNat_inj.mp (Text.eq_of_mem_encode (by decide) hb))

/-- A character that begins no pair of braces is passed over. -/
theorem spansFrom_bytes_cons (hopen : ∀ tail, c = '{' → cs = '{' :: tail → False)
    (hclose : opened?.isSome = true → ∀ tail, c = '}' → cs = '}' :: tail → False) (i : Nat) :
    spansFrom opened? i (bytes (c :: cs)) = spansFrom opened? (i + c.utf8Size) (bytes cs) := by
  have hfollows : ∀ d : Char, d.toNat < 128 → c = d → (∀ tail, c = d → cs = d :: tail → False) →
      (bytes cs).head? ≠ some (UInt8.ofNat d.toNat) := by
    intro d hd hc hno hhead
    obtain ⟨tail, htail⟩ := Text.exists_of_head?_bytes hd hhead
    exact hno tail hc htail
  by_cases hc : c = '{'
  · have hnext := hfollows '{' (by decide) hc hopen
    subst hc
    exact spansFrom_cons (fun _ => hnext) (fun _ hb => absurd hb (by decide)) i
  · by_cases hc' : c = '}'
    · have hnext := fun hin => hfollows '}' (by decide) hc' (hclose hin)
      subst hc'
      exact spansFrom_cons (fun hb => absurd hb (by decide)) (fun hin _ => hnext hin) i
    · have hplain := encode_ne_brace (isBrace_eq_false_iff.mpr ⟨hc, hc'⟩)
      rw [bytes_cons, spansFrom_append hplain, String.length_utf8EncodeChar]

/-- Where a block begins and where it ends. -/
def Placed.span (b : Placed) : Nat × Nat :=
  (b.start, b.stop)

theorem size_opened (inner : List Char) : size (opened (some inner)) = size inner.reverse + 2 := by
  have hbrace : '{'.utf8Size = 1 := rfl
  rw [opened, size_cons, size_cons, hbrace]
  omega

/-- From wherever it is in a text, the pass finds the blocks that the rest is cut into.  An opener
that was seen stands at `start`, and what was read since then before the rest. -/
theorem spansFrom_bytes (state : Option (List Char)) (cs : List Char) (start : Nat) :
    spansFrom (state.map fun _ => start) (start + size (opened state)) (bytes cs) =
      (placedFrom start (scanFrom state cs)).map Placed.span := by
  fun_induction scanFrom state cs generalizing start with
  | case1 cs ih =>
      rw [bytes_opener, spansFrom_opener]
      exact ih start
  | case2 inner cs ih =>
      rw [bytes_opener, spansFrom_opener, placedFrom_append, render_unopened, unopened,
        placedFrom_map_char, List.nil_append]
      exact ih _
  | case3 inner cs ih =>
      have hspan : start + size (opened (some inner)) + 2 = start + size inner.reverse + 4 := by
        rw [size_opened]
        omega
      have hblock : (placedFrom start (.block inner.reverse :: scanFrom none cs)).map Placed.span =
          (start, start + size inner.reverse + 4) ::
            (placedFrom (start + size inner.reverse + 4) (scanFrom none cs)).map Placed.span := rfl
      rw [hblock, ← ih, bytes_closer, ← hspan]
      exact spansFrom_closer start _ _
  | case4 c cs hopen ih =>
      refine (spansFrom_bytes_cons hopen (fun hin => by cases hin) start).trans ?_
      exact ih (start + c.utf8Size)
  | case5 inner c cs hopen hclose ih =>
      have hread : size (opened (some (c :: inner))) = size (opened (some inner)) + c.utf8Size := by
        rw [size_opened, size_opened, List.reverse_cons, size_append, size_cons]
        have hnil : size [] = 0 := rfl
        omega
      refine (spansFrom_bytes_cons hopen (fun _ => hclose) _).trans ?_
      rw [Nat.add_assoc, ← hread]
      exact ih start
  | case6 =>
      rfl
  | case7 inner =>
      rw [unopened, placedFrom_map_char]
      rfl

/-- The pass over the bytes of a text finds its blocks, each at its place. -/
theorem spans_bytes (cs : List Char) : spans (bytes cs) = (placed cs).map Placed.span :=
  spansFrom_bytes none cs 0

end Characters

/--
The blocks of a text stand one after the other.  Each is cut out of the text between two characters:
two opening braces, what is in it, and two closing braces; and in it no two opening and no two closing
braces stand side by side.  Wherever a token stands, one block ends where the token does, and it
begins where the token does or one byte before.  One pass over the bytes of the text finds where the
blocks begin and end.
-/
theorem blocks_sound_and_complete (cs : List Char) :
    (placed cs).Pairwise (fun a b => a.stop ≤ b.start) ∧
      (∀ b ∈ placed cs,
        (∃ before after, cs = before ++ '{' :: '{' :: (b.inner ++ '}' :: '}' :: after) ∧
          b.start = size before ∧ b.stop = b.start + size b.inner + 4) ∧
        ¬['{', '{'] <:+: b.inner ∧ ¬['}', '}'] <:+: b.inner) ∧
      (∀ o : Occurrence cs, ∃ b ∈ placed cs,
        b.stop = size o.before + size o.inner + 4 ∧
          (b.start = size o.before ∨ b.start + 1 = size o.before) ∧
          ∀ other ∈ placed cs, other.stop = b.stop → other = b) ∧
      spans (bytes cs) = (placed cs).map Placed.span := by
  refine ⟨pairwise_placedFrom 0 (scan cs), fun b hb => ?_, fun o => ?_, spans_bytes cs⟩
  · obtain ⟨left, right, hscan, hstart, hstop⟩ := mem_placedFrom_iff.mp hb
    have htext : cs = Segment.render left ++
        '{' :: '{' :: (b.inner ++ '}' :: '}' :: Segment.render right) := by
      have hrender := render_scan cs
      rw [hscan, render_append, render_cons] at hrender
      simpa [Segment.text] using hrender.symm
    have hscattered : Scattered (b.inner ++ ['}']) :=
      Spaced.scattered (hscan ▸ spaced_scan cs)
    exact ⟨⟨_, _, htext, by omega, hstop⟩, hscattered.not_adjacent (by decide),
      hscattered.not_adjacent (by decide)⟩
  · obtain ⟨left, inner, right, hscan, hplace⟩ := exists_block_of_occurrence o
    have hmem : (⟨size (Segment.render left), size (Segment.render left) + size inner + 4, inner⟩ :
        Placed) ∈ placed cs :=
      mem_placedFrom_iff.mpr ⟨left, right, hscan, (Nat.zero_add _).symm, rfl⟩
    have hbrace : '{'.utf8Size = 1 := rfl
    refine ⟨_, hmem, ?_, ?_, fun other hother hstop => eq_of_stop_eq hother hmem hstop⟩
    · rcases hplace with ⟨hleft, rfl⟩ | ⟨hleft, rfl⟩
      · rw [hleft]
      · rw [← hleft, size_append, size_cons, size_cons, hbrace, ← Nat.add_assoc]
        rfl
    · rcases hplace with ⟨hleft, rfl⟩ | ⟨hleft, rfl⟩
      · exact .inl (congrArg size hleft)
      · right
        rw [← hleft, size_append]
        rfl

end Legacy
end PromptBook

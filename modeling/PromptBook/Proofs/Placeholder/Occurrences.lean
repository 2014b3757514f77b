import PromptBook.Proofs.Placeholder.Braces
import Mathlib.Data.List.TakeWhile

/-!
# The tokens of a text

A token may stand anywhere in a text.  Between its opening and its closing braces there is no brace,
so no token begins inside another, and cutting a text from left to right finds every one of them.

**Results.**
* `Occurrence.eq_or_apart`: two tokens of a text are the same, or one ends before the other begins.
* `Occurrence.pieces_eq`: a text is cut at each of its tokens.
* `reading_iff`: the pieces of a text are the only ones that spell it and have its tokens, each at
  its place.
-/

namespace PromptBook
namespace Placeholder

variable {cs inner rest : List Char} {c : Char} {p : Piece} {ps : List Piece}

section Cutting

theorem tokenAt?_of_braceFree (h : BraceFree inner) (rest : List Char) :
    tokenAt? ('{' :: '{' :: (inner ++ '}' :: '}' :: rest)) = some (inner, rest) := by
  have hall : ∀ c ∈ inner, (!isBrace c) = true := by
    simpa [BraceFree] using h
  have hdrop : (inner ++ '}' :: '}' :: rest).dropWhile (!isBrace ·) = '}' :: '}' :: rest := by
    rw [List.dropWhile_append_of_pos hall]
    rfl
  have htake : (inner ++ '}' :: '}' :: rest).takeWhile (!isBrace ·) = inner := by
    rw [List.takeWhile_append_of_pos hall]
    simp [isBrace]
  simp only [tokenAt?, hdrop, htake]

/-- What is taken for a token at the beginning of a text is one. -/
theorem tokenAt?_eq_some_iff :
    tokenAt? cs = some (inner, rest) ↔
      cs = '{' :: '{' :: (inner ++ '}' :: '}' :: rest) ∧ BraceFree inner := by
  constructor
  · intro h
    unfold tokenAt? at h
    split at h
    · rename_i tail
      split at h
      · rename_i rest' hdrop
        cases h
        have hsplit := List.takeWhile_append_dropWhile (p := (!isBrace ·)) (l := tail)
        rw [hdrop] at hsplit
        refine ⟨by rw [hsplit], fun c hc => ?_⟩
        simpa using List.mem_takeWhile_imp hc
      · cases h
    · cases h
  · rintro ⟨rfl, hfree⟩
    exact tokenAt?_of_braceFree hfree rest

/-- A token at the beginning of a text stays one when the text goes on. -/
theorem tokenAt?_append (h : tokenAt? cs = some (inner, rest)) (more : List Char) :
    tokenAt? (cs ++ more) = some (inner, rest ++ more) := by
  obtain ⟨rfl, hfree⟩ := tokenAt?_eq_some_iff.mp h
  simpa using tokenAt?_of_braceFree hfree (rest ++ more)

theorem pieces_nil : pieces [] = [] := by
  cbv

theorem pieces_of_tokenAt? (h : tokenAt? cs = some (inner, rest)) :
    pieces cs = .token inner :: pieces rest := by
  rw [pieces]
  split
  · rename_i hat
    rw [h] at hat
    cases hat
    rfl
  · rename_i hat
    rw [h] at hat
    cases hat

theorem pieces_cons_of_tokenAt? (h : tokenAt? (c :: cs) = none) :
    pieces (c :: cs) = .char c :: pieces cs := by
  rw [pieces]
  split
  · rename_i hat
    rw [h] at hat
    cases hat
  · rfl

/-- A text that is a token is one piece. -/
theorem pieces_of_braceFree (h : BraceFree inner) :
    pieces ('{' :: '{' :: (inner ++ ['}', '}'])) = [.token inner] := by
  rw [pieces_of_tokenAt? (tokenAt?_of_braceFree h []), pieces_nil]

end Cutting

section Occurrences

/-- A token of a text: what stands before it, between its braces, and after it. -/
structure Occurrence (cs : List Char) where
  before : List Char
  inner : List Char
  after : List Char
  text : cs = before ++ '{' :: '{' :: (inner ++ '}' :: '}' :: after)
  braceFree : BraceFree inner

namespace Occurrence

/-- Where a token begins. -/
def start (o : Occurrence cs) : Nat :=
  o.before.length

/-- Where the text after a token begins. -/
def stop (o : Occurrence cs) : Nat :=
  o.before.length + o.inner.length + 4

theorem take_start (o : Occurrence cs) : cs.take o.start = o.before := by
  obtain ⟨before, inner, after, rfl, hfree⟩ := o
  exact List.take_left

theorem tokenAt?_drop_start (o : Occurrence cs) :
    tokenAt? (cs.drop o.start) = some (o.inner, o.after) := by
  obtain ⟨before, inner, after, rfl, hfree⟩ := o
  rw [start, List.drop_left, tokenAt?_of_braceFree hfree]

/-- A token is known by where it begins. -/
theorem eq_of_start_eq {a b : Occurrence cs} (h : a.start = b.start) : a = b := by
  have hbefore : a.before = b.before := by
    rw [← a.take_start, h, b.take_start]
  have hat := a.tokenAt?_drop_start
  rw [h, b.tokenAt?_drop_start] at hat
  obtain ⟨before, inner, after, htext, hfree⟩ := a
  cases hat
  cases hbefore
  rfl

/-- A token begins with two opening braces. -/
theorem getElem?_opening (o : Occurrence cs) {i : Nat} (h : i = o.start ∨ i = o.start + 1) :
    cs[i]? = some '{' := by
  obtain ⟨before, inner, after, rfl, hfree⟩ := o
  rcases h with rfl | rfl
  · simp [start]
  · simp [start]

/-- After its first two characters a token has no opening brace. -/
theorem getElem?_ne_opening (o : Occurrence cs) {i : Nat} (hstart : o.start + 2 ≤ i)
    (hstop : i < o.stop) : cs[i]? ≠ some '{' := by
  obtain ⟨before, inner, after, rfl, hfree⟩ := o
  simp only [start, stop] at hstart hstop
  have htext : before ++ '{' :: '{' :: (inner ++ '}' :: '}' :: after) =
      (before ++ ['{', '{']) ++ ((inner ++ ['}', '}']) ++ after) := by
    simp
  have hlength : (before ++ ['{', '{']).length = before.length + 2 := by
    simp
  have hin : i - (before.length + 2) < (inner ++ ['}', '}']).length := by
    simp only [List.length_append, List.length_cons, List.length_nil]
    omega
  rw [htext, List.getElem?_append_right (by omega), hlength, List.getElem?_append_left hin]
  intro hget
  rcases List.mem_append.mp (List.mem_of_getElem? hget) with hmem | hmem
  · have hno := hfree _ hmem
    exact absurd hno (by decide)
  · simp at hmem

/-- Two tokens of a text are the same, or one ends before the other begins. -/
theorem eq_or_apart (a b : Occurrence cs) : a = b ∨ a.stop ≤ b.start ∨ b.stop ≤ a.start := by
  -- One of the opening braces of a token that began inside another would be inside it, too.
  have hapart (a b : Occurrence cs) (hlt : a.start < b.start) : a.stop ≤ b.start := by
    by_contra hinside
    have hstop : a.start + 4 ≤ a.stop := by
      simp only [start, stop]
      omega
    by_cases hlast : b.start + 1 < a.stop
    · exact a.getElem?_ne_opening (by omega) hlast (b.getElem?_opening (.inr rfl))
    · exact a.getElem?_ne_opening (by omega) (by omega) (b.getElem?_opening (.inl rfl))
  rcases Nat.lt_trichotomy a.start b.start with hlt | heq | hlt
  · exact .inr (.inl (hapart a b hlt))
  · exact .inl (eq_of_start_eq heq)
  · exact .inr (.inr (hapart b a hlt))

/-- A token at the beginning of a text that ends before another one begins. -/
theorem exists_middle (o : Occurrence cs) (hat : tokenAt? cs = some (inner, rest))
    (hle : inner.length + 4 ≤ o.before.length) :
    ∃ middle, tokenAt? o.before = some (inner, middle) ∧
      rest = middle ++ '{' :: '{' :: (o.inner ++ '}' :: '}' :: o.after) := by
  obtain ⟨before, inner', after, htext, hfree'⟩ := o
  obtain ⟨rfl, hfree⟩ := tokenAt?_eq_some_iff.mp hat
  have hfirst : '{' :: '{' :: (inner ++ ['}', '}']) <+:
      '{' :: '{' :: (inner ++ '}' :: '}' :: rest) := ⟨rest, by simp⟩
  have hlength : ('{' :: '{' :: (inner ++ ['}', '}'])).length = inner.length + 4 := by
    simp only [List.length_cons, List.length_append, List.length_nil]
  have hbegins : '{' :: '{' :: (inner ++ ['}', '}']) <+: before := by
    refine List.prefix_of_prefix_length_le hfirst ⟨_, htext.symm⟩ ?_
    rw [hlength]
    exact hle
  obtain ⟨middle, rfl⟩ := hbegins
  refine ⟨middle, ?_, ?_⟩
  · simpa using tokenAt?_of_braceFree hfree middle
  · simpa using htext

theorem tokenAt?_before_eq_none (o : Occurrence cs) (hat : tokenAt? cs = none) :
    tokenAt? o.before = none := by
  cases hsome : tokenAt? o.before with
  | none =>
      rfl
  | some token =>
      have hwhole := tokenAt?_append hsome ('{' :: '{' :: (o.inner ++ '}' :: '}' :: o.after))
      rw [← o.text, hat] at hwhole
      cases hwhole

/-- A text is cut at each of its tokens. -/
theorem pieces_eq (o : Occurrence cs) :
    pieces cs = pieces o.before ++ .token o.inner :: pieces o.after := by
  induction cs using pieces.induct with
  | case1 cs inner rest hat hlt ih =>
      obtain ⟨htext, hfree⟩ := tokenAt?_eq_some_iff.mp hat
      let first : Occurrence cs := ⟨[], inner, rest, htext, hfree⟩
      rw [pieces_of_tokenAt? hat]
      rcases first.eq_or_apart o with rfl | hle | hle
      · rw [pieces_nil]
        rfl
      · have hlength : inner.length + 4 ≤ o.before.length := by
          simpa [first, start, stop] using hle
        obtain ⟨middle, hbefore, hrest⟩ := o.exists_middle hat hlength
        rw [pieces_of_tokenAt? hbefore, ih ⟨middle, o.inner, o.after, hrest, o.braceFree⟩]
        rfl
      · simp [first, start, stop] at hle
  | case2 hat =>
      have hnil := o.text
      simp at hnil
  | case3 c cs hat ih =>
      have hnone := o.tokenAt?_before_eq_none hat
      obtain ⟨before, inner, after, htext, hfree⟩ := o
      cases before with
      | nil =>
          rw [List.nil_append] at htext
          rw [htext, tokenAt?_of_braceFree hfree] at hat
          cases hat
      | cons d before =>
          obtain ⟨rfl, htail⟩ := List.cons.inj (htext.trans (List.cons_append ..))
          rw [pieces_cons_of_tokenAt? hat, pieces_cons_of_tokenAt? hnone,
            ih ⟨before, inner, after, htail, hfree⟩]
          rfl

end Occurrence

end Occurrences

section Readings

/-- The text that a piece was cut from. -/
def Piece.text : Piece → List Char
  | char c => [c]
  | token inner => '{' :: '{' :: (inner ++ ['}', '}'])

/-- The text that pieces were cut from. -/
def spelled (ps : List Piece) : List Char :=
  ps.flatMap Piece.text

theorem spelled_cons (p : Piece) (ps : List Piece) : spelled (p :: ps) = p.text ++ spelled ps :=
  rfl

theorem Piece.text_ne_nil (p : Piece) : p.text ≠ [] := by
  cases p <;> simp [text]

theorem spelled_eq_nil_iff : spelled ps = [] ↔ ps = [] := by
  cases ps with
  | nil =>
      simp [spelled]
  | cons p ps =>
      simp [spelled_cons, p.text_ne_nil]

/-- Cutting a text loses nothing. -/
theorem spelled_pieces (cs : List Char) : spelled (pieces cs) = cs := by
  induction cs using pieces.induct with
  | case1 cs inner rest hat hlt ih =>
      rw [pieces_of_tokenAt? hat, spelled_cons, ih, (tokenAt?_eq_some_iff.mp hat).1]
      simp [Piece.text]
  | case2 hat =>
      rw [pieces_nil]
      rfl
  | case3 c cs hat ih =>
      rw [pieces_cons_of_tokenAt? hat, spelled_cons, ih]
      rfl

theorem braceFree_of_mem_pieces (h : .token inner ∈ pieces cs) : BraceFree inner := by
  induction cs using pieces.induct with
  | case1 cs inner' rest hat hlt ih =>
      rw [pieces_of_tokenAt? hat] at h
      rcases List.mem_cons.mp h with heq | h
      · cases heq
        exact (tokenAt?_eq_some_iff.mp hat).2
      · exact ih h
  | case2 hat =>
      rw [pieces_nil] at h
      cases h
  | case3 c cs hat ih =>
      rw [pieces_cons_of_tokenAt? hat] at h
      rcases List.mem_cons.mp h with heq | h
      · cases heq
      · exact ih h

/-- Among the pieces of a text are the tokens that stand in it. -/
theorem token_mem_pieces_iff : .token inner ∈ pieces cs ↔ ∃ o : Occurrence cs, o.inner = inner := by
  constructor
  · intro h
    obtain ⟨left, right, hpieces⟩ := List.append_of_mem h
    have htext : cs = spelled left ++ '{' :: '{' :: (inner ++ '}' :: '}' :: spelled right) := by
      rw [← spelled_pieces cs, hpieces]
      simp [spelled, Piece.text]
    exact ⟨⟨spelled left, inner, spelled right, htext, braceFree_of_mem_pieces h⟩, rfl⟩
  · rintro ⟨o, rfl⟩
    rw [o.pieces_eq]
    exact List.mem_append_right _ List.mem_cons_self

/-- Pieces that spell a text and have its tokens, each at its place. -/
structure Reading (cs : List Char) (ps : List Piece) : Prop where
  spells : spelled ps = cs
  braceFree : ∀ inner, .token inner ∈ ps → BraceFree inner
  complete : ∀ o : Occurrence cs, ∃ left right, ps = left ++ .token o.inner :: right ∧
    spelled left = o.before ∧ spelled right = o.after

theorem reading_pieces (cs : List Char) : Reading cs (pieces cs) where
  spells := spelled_pieces cs
  braceFree _ h := braceFree_of_mem_pieces h
  complete o :=
    ⟨pieces o.before, pieces o.after, o.pieces_eq, spelled_pieces o.before, spelled_pieces o.after⟩

namespace Reading

/-- The pieces after the first are a reading of the text after it. -/
theorem tail (h : Reading cs (p :: ps)) : Reading (spelled ps) ps where
  spells := rfl
  braceFree inner hmem := h.braceFree inner (List.mem_cons_of_mem p hmem)
  complete o := by
    have htext : cs = (p.text ++ o.before) ++ '{' :: '{' :: (o.inner ++ '}' :: '}' :: o.after) := by
      rw [← h.spells, spelled_cons, List.append_assoc, ← o.text]
    obtain ⟨left, right, hps, hleft, hright⟩ :=
      h.complete ⟨p.text ++ o.before, o.inner, o.after, htext, o.braceFree⟩
    cases left with
    | nil =>
        simp [spelled, p.text_ne_nil] at hleft
    | cons q left =>
        obtain ⟨rfl, hps⟩ := List.cons.inj hps
        exact ⟨left, right, by simpa using hps, List.append_cancel_left hleft, hright⟩

/-- A text that is read as beginning with a character does not begin with a token. -/
theorem tokenAt?_eq_none (h : Reading cs (.char c :: ps)) : tokenAt? cs = none := by
  by_contra hsome
  obtain ⟨⟨inner, rest⟩, hsome⟩ := Option.ne_none_iff_exists'.mp hsome
  obtain ⟨htext, hfree⟩ := tokenAt?_eq_some_iff.mp hsome
  obtain ⟨left, right, hps, hleft, -⟩ := h.complete ⟨[], inner, rest, htext, hfree⟩
  obtain rfl := spelled_eq_nil_iff.mp hleft
  cases hps

theorem eq_pieces (h : Reading cs ps) : ps = pieces cs := by
  induction ps generalizing cs with
  | nil =>
      rw [← h.spells]
      exact pieces_nil.symm
  | cons p ps ih =>
      have htail := ih h.tail
      have hspells : cs = p.text ++ spelled ps := h.spells.symm
      cases p with
      | char c =>
          have hnone := h.tokenAt?_eq_none
          have hcons : cs = c :: spelled ps := hspells
          rw [hcons] at hnone
          rw [hcons, pieces_cons_of_tokenAt? hnone, ← htail]
      | token inner =>
          have hfree := h.braceFree inner List.mem_cons_self
          have hat : tokenAt? cs = some (inner, spelled ps) := by
            rw [hspells]
            simpa [Piece.text] using tokenAt?_of_braceFree hfree (spelled ps)
          rw [pieces_of_tokenAt? hat, ← htail]

end Reading

/-- There is one reading of a text, and it is found from left to right. -/
theorem reading_iff : Reading cs ps ↔ ps = pieces cs := by
  constructor
  · exact Reading.eq_pieces
  · rintro rfl
    exact reading_pieces cs

end Readings

end Placeholder
end PromptBook

import PromptBook.Proofs.Placeholder.Braces
import PromptBook.Substitution

/-!
# Tokens that substitution lets through

Substitution replaces the tokens of a text, but the text that comes out may hold tokens again.  It
may come to that in two ways.  The braces of the text itself may close up to a token when what
stands between them is replaced by nothing, or by text without braces; or a value brings a brace
along that becomes one of the four of a token.

**Results.**
* `exists_site`: every character that comes out belongs to one piece.
* `hasToken_spoken_iff`: tokens come out in these two ways and in no other.
* `exposes_iff_closesUp`: without braces in the values there is only the first way.
* `not_exposes_of_braceFree`: where no brace comes out, no token does.
-/

namespace PromptBook
namespace Substitution

open Placeholder (BraceFree Piece isBrace)

variable {values : Values} {ps : List Piece}

section Texts

/-- A token stands somewhere in a text. -/
def HasToken (cs : List Char) : Prop :=
  ∃ before inner after,
    cs = before ++ '{' :: '{' :: (inner ++ '}' :: '}' :: after) ∧ BraceFree inner

/-- A character between two texts is one of the four braces of a token. -/
inductive BraceOfToken : List Char → Char → List Char → Prop
  | firstOpening (before : List Char) {inner : List Char} (h : BraceFree inner)
      (after : List Char) :
      BraceOfToken before '{' ('{' :: (inner ++ '}' :: '}' :: after))
  | secondOpening (before : List Char) {inner : List Char} (h : BraceFree inner)
      (after : List Char) :
      BraceOfToken (before ++ ['{']) '{' (inner ++ '}' :: '}' :: after)
  | firstClosing (before : List Char) {inner : List Char} (h : BraceFree inner)
      (after : List Char) :
      BraceOfToken (before ++ '{' :: '{' :: inner) '}' ('}' :: after)
  | secondClosing (before : List Char) {inner : List Char} (h : BraceFree inner)
      (after : List Char) :
      BraceOfToken (before ++ '{' :: '{' :: (inner ++ ['}'])) '}' after

theorem BraceOfToken.hasToken {left right : List Char} {c : Char}
    (h : BraceOfToken left c right) : HasToken (left ++ c :: right) := by
  cases h with
  | firstOpening before h after =>
      exact ⟨left, _, after, rfl, h⟩
  | secondOpening before h after =>
      exact ⟨before, _, after, by simp, h⟩
  | firstClosing before h after =>
      exact ⟨before, _, after, by simp, h⟩
  | secondClosing before h after =>
      exact ⟨before, _, right, by simp, h⟩

theorem BraceOfToken.isBrace {left right : List Char} {c : Char}
    (h : BraceOfToken left c right) : Placeholder.isBrace c = true := by
  cases h <;> decide

/-- A token has braces. -/
theorem HasToken.not_braceFree {cs : List Char} (h : HasToken cs) : ¬BraceFree cs := by
  obtain ⟨before, inner, after, rfl, _⟩ := h
  intro hfree
  have hbrace := hfree '{' (by simp)
  exact absurd hbrace (by decide)

end Texts

section Pieces

/-- What pieces become. -/
def spoken (values : Values) (ps : List Piece) : List Char :=
  ps.flatMap (replacement values)

theorem spoken_append (a b : List Piece) :
    spoken values (a ++ b) = spoken values a ++ spoken values b :=
  List.flatMap_append

theorem spoken_nil : spoken values [] = [] :=
  rfl

theorem spoken_char_cons (c : Char) (rest : List Piece) :
    spoken values (.char c :: rest) = c :: spoken values rest :=
  rfl

/-- Every character of what pieces become belongs to one of them. -/
theorem exists_site {x y : List Char} {c : Char} (h : spoken values ps = x ++ c :: y) :
    ∃ left p right u v, ps = left ++ p :: right ∧ replacement values p = u ++ c :: v ∧
      spoken values left ++ u = x ∧ v ++ spoken values right = y := by
  induction ps generalizing x with
  | nil =>
      simp [spoken] at h
  | cons p rest ih =>
      have hrest : ∀ bs, x = replacement values p ++ bs → spoken values rest = bs ++ c :: y →
          ∃ left q right u v, p :: rest = left ++ q :: right ∧
            replacement values q = u ++ c :: v ∧
            spoken values left ++ u = x ∧ v ++ spoken values right = y := by
        rintro bs rfl hspoken
        obtain ⟨left, q, right, u, v, rfl, hq, rfl, hy⟩ := ih hspoken
        exact ⟨p :: left, q, right, u, v, rfl, hq, by simp [spoken], hy⟩
      have hsplit : replacement values p ++ spoken values rest = x ++ c :: y := h
      rcases List.append_eq_append_iff.mp hsplit with ⟨bs, hx, hspoken⟩ | ⟨as, hp, htail⟩
      · exact hrest bs hx hspoken
      · cases as with
        | nil =>
            exact hrest [] (by simpa using hp.symm) htail.symm
        | cons d v =>
            obtain ⟨rfl, rfl⟩ := List.cons.inj htail
            exact ⟨[], p, rest, x, v, rfl, hp, rfl, rfl⟩

end Pieces

section Exposure

/--
Braces of the text itself close up to a token: nothing comes of what stands between the two opening
and between the two closing braces, and no braces of what stands between opening and closing.
-/
def ClosesUp (values : Values) (ps : List Piece) : Prop :=
  ∃ before opening flat closing after,
    ps = before ++ .char '{' :: (opening ++ .char '{' ::
      (flat ++ .char '}' :: (closing ++ .char '}' :: after))) ∧
    spoken values opening = [] ∧ BraceFree (spoken values flat) ∧ spoken values closing = []

/-- A brace of a value becomes one of the four braces of a token. -/
def Smuggles (values : Values) (ps : List Piece) : Prop :=
  ∃ left inner right u c v,
    ps = left ++ .token inner :: right ∧ replacement values (.token inner) = u ++ c :: v ∧
      BraceOfToken (spoken values left ++ u) c (v ++ spoken values right)

/-- Either of the two. -/
def Exposes (values : Values) (ps : List Piece) : Prop :=
  ClosesUp values ps ∨ Smuggles values ps

theorem ClosesUp.hasToken (h : ClosesUp values ps) : HasToken (spoken values ps) := by
  obtain ⟨before, opening, flat, closing, after, rfl, hopening, hflat, hclosing⟩ := h
  refine ⟨spoken values before, spoken values flat, spoken values after, ?_, hflat⟩
  simp [spoken_append, spoken_char_cons, hopening, hclosing]

theorem Smuggles.hasToken (h : Smuggles values ps) : HasToken (spoken values ps) := by
  obtain ⟨left, inner, right, u, c, v, rfl, hvalue, hbrace⟩ := h
  have hspoken : spoken values (left ++ .token inner :: right) =
      (spoken values left ++ u) ++ c :: (v ++ spoken values right) := by
    simp [spoken, hvalue]
  rw [hspoken]
  exact hbrace.hasToken

/--
A brace of a token that comes out of the pieces at the back was smuggled in, or it stands among them
itself.  In the second case what comes before it comes of the pieces before it, and what comes after
it of those after it.
-/
theorem smuggles_or_char (front : List Piece) {back : List Piece} {x y : List Char} {c : Char}
    (h : spoken values back = x ++ c :: y)
    (hbrace : BraceOfToken (spoken values front ++ x) c y) :
    Smuggles values (front ++ back) ∨ ∃ left right, back = left ++ .char c :: right ∧
      spoken values left = x ∧ spoken values right = y := by
  obtain ⟨left, p, right, u, v, rfl, hp, rfl, rfl⟩ := exists_site h
  cases p with
  | token inner =>
      refine Or.inl ⟨front ++ left, inner, right, u, c, v, by simp, hp, ?_⟩
      rw [spoken_append, List.append_assoc]
      exact hbrace
  | char d =>
      have hchar : [d] = u ++ c :: v := hp
      cases u with
      | nil =>
          obtain ⟨rfl, rfl⟩ := List.cons.inj hchar
          exact Or.inr ⟨left, right, rfl, by simp, rfl⟩
      | cons _ u =>
          simp at hchar

/-- A token that comes out is made of braces of the text itself, or one of its braces was smuggled
in. -/
theorem HasToken.exposes (h : HasToken (spoken values ps)) : Exposes values ps := by
  obtain ⟨before, inner, after, hspoken, hinner⟩ := h
  -- The four braces are looked for one by one, each among the pieces after the one before it.
  rcases smuggles_or_char [] hspoken (.firstOpening before hinner after) with
    hsmuggles | ⟨p₁, rest₁, rfl, hp₁, hrest₁⟩
  · exact Or.inr hsmuggles
  have hfront₁ : spoken values (p₁ ++ [.char '{']) ++ [] = before ++ ['{'] := by
    simp [spoken_append, spoken_char_cons, spoken_nil, hp₁]
  rcases smuggles_or_char (p₁ ++ [.char '{']) (x := []) hrest₁
      (hfront₁ ▸ .secondOpening before hinner after) with
    hsmuggles | ⟨opening, rest₂, rfl, hopening, hrest₂⟩
  · exact Or.inr (by simpa using hsmuggles)
  have hfront₂ : spoken values (p₁ ++ .char '{' :: (opening ++ [.char '{'])) ++ inner =
      before ++ '{' :: '{' :: inner := by
    simp [spoken_append, spoken_char_cons, spoken_nil, hp₁, hopening]
  rcases smuggles_or_char (p₁ ++ .char '{' :: (opening ++ [.char '{'])) hrest₂
      (hfront₂ ▸ .firstClosing before hinner after) with
    hsmuggles | ⟨flat, rest₃, rfl, hflat, hrest₃⟩
  · exact Or.inr (by simpa using hsmuggles)
  have hfront₃ : spoken values (p₁ ++ .char '{' :: (opening ++ .char '{' ::
      (flat ++ [.char '}']))) ++ [] = before ++ '{' :: '{' :: (inner ++ ['}']) := by
    simp [spoken_append, spoken_char_cons, spoken_nil, hp₁, hopening, hflat]
  rcases smuggles_or_char (p₁ ++ .char '{' :: (opening ++ .char '{' :: (flat ++ [.char '}'])))
      (x := []) hrest₃ (hfront₃ ▸ .secondClosing before hinner after) with
    hsmuggles | ⟨closing, rest₄, rfl, hclosing, _⟩
  · exact Or.inr (by simpa using hsmuggles)
  exact Or.inl ⟨p₁, opening, flat, closing, rest₄, rfl, hopening, hflat ▸ hinner, hclosing⟩

/-- Tokens come out of a text if and only if its own braces close up to one or a value smuggles a
brace of one in. -/
theorem hasToken_spoken_iff : HasToken (spoken values ps) ↔ Exposes values ps := by
  constructor
  · exact HasToken.exposes
  · rintro (h | h)
    · exact h.hasToken
    · exact h.hasToken

/-- Where no value brings braces along, only those of the text itself count. -/
theorem exposes_iff_closesUp
    (h : ∀ inner, .token inner ∈ ps → BraceFree (replacement values (.token inner))) :
    Exposes values ps ↔ ClosesUp values ps := by
  constructor
  · rintro (hcloses | ⟨left, inner, right, u, c, v, rfl, hvalue, hbrace⟩)
    · exact hcloses
    · have hplain : isBrace c = false := by
        apply h inner (by simp)
        simp [hvalue]
      rw [hbrace.isBrace] at hplain
      cases hplain
  · exact Or.inl

theorem not_exposes_of_braceFree (h : BraceFree (spoken values ps)) : ¬Exposes values ps :=
  fun hexposes => (hasToken_spoken_iff.mpr hexposes).not_braceFree h

end Exposure

end Substitution
end PromptBook

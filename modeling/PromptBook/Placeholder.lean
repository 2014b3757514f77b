import PromptBook.Text.Blank

/-!
# Placeholders

A placeholder token is two opening braces, a text without braces, and two closing braces.  A text is
cut into its tokens and the characters between them from left to right, so no two tokens overlap.
A token refers to a variable if its text is, white space at the ends apart, an identifier.
-/

namespace PromptBook
namespace Placeholder

section Identifiers

/-- A character that may begin an identifier. -/
def beginsIdentifier (c : Char) : Bool :=
  c.isAlpha || c == '_'

/-- A character that may stand in an identifier. -/
def continuesIdentifier (c : Char) : Bool :=
  c.isAlphanum || c == '_'

/-- An ASCII letter or underscore, then ASCII letters, digits and underscores. -/
def isIdentifier : List Char → Bool
  | [] => false
  | c :: cs => beginsIdentifier c && cs.all continuesIdentifier

/-- The same of a string. -/
def isIdentifierText (s : String) : Bool :=
  isIdentifier s.toList

end Identifiers

section Tokens

/-- A brace of either kind. -/
def isBrace (c : Char) : Bool :=
  c == '{' || c == '}'

/-- A character of a text, or a token with what stands between its braces. -/
inductive Piece
  | char (c : Char)
  | token (inner : List Char)
  deriving DecidableEq, Inhabited

/-- What stands between the braces of the token at the beginning of a text, and the text after
it. -/
def tokenAt? : List Char → Option (List Char × List Char)
  | '{' :: '{' :: cs =>
    match cs.dropWhile (!isBrace ·) with
    | '}' :: '}' :: rest => some (cs.takeWhile (!isBrace ·), rest)
    | _ => none
  | _ => none

theorem length_lt_of_tokenAt? {cs inner rest : List Char} (h : tokenAt? cs = some (inner, rest)) :
    rest.length < cs.length := by
  unfold tokenAt? at h
  split at h
  · rename_i cs
    split at h
    · rename_i rest' hdrop
      have hle := (List.dropWhile_suffix (l := cs) (!isBrace ·)).length_le
      rw [hdrop] at hle
      cases h
      simp only [List.length_cons] at hle ⊢
      omega
    · cases h
  · cases h

/-- The tokens of a text and the characters between them. -/
def pieces (cs : List Char) : List Piece :=
  match h : tokenAt? cs with
  | some (inner, rest) =>
    have := length_lt_of_tokenAt? h
    .token inner :: pieces rest
  | none =>
    match cs with
    | [] => []
    | c :: cs => .char c :: pieces cs
termination_by cs.length

/-- The variable that a token refers to. -/
def reference? : Piece → Option String
  | .token inner =>
    let name := Text.trim inner
    if isIdentifier name then some (String.ofList name) else none
  | .char _ => none

end Tokens

/-- The token that refers to a variable. -/
def token (name : String) : String :=
  String.ofList ('{' :: '{' :: (name.toList ++ ['}', '}']))

section Names

/-- A list and one more item, unless it is there. -/
def addNew (names : List String) (name : String) : List String :=
  if names.contains name then names else names ++ [name]

/-- The items of a list in the order of their first occurrences. -/
def distinct (names : List String) : List String :=
  names.foldl addNew []

/-- The variables that a text refers to, in the order of their first occurrences. -/
def names (text : String) : List String :=
  distinct ((pieces text.toList).filterMap reference?)

end Names

end Placeholder
end PromptBook

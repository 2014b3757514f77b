/-!
# Blank characters, trimming and splitting

White space is the Unicode property of that name: twenty-five characters, among them the no-break
space and the line separators.  Every trim, every blank test and every split into words of the
library goes through `isBlank`.

Texts are lists of characters here; a `String` is read through `String.toList`.
-/

namespace PromptBook
namespace Text

/-- The Unicode property `White_Space`. -/
def isBlank (c : Char) : Bool :=
  let n := c.toNat
  (0x09 ≤ n && n ≤ 0x0D) || n == 0x20 || n == 0x85 || n == 0xA0 || n == 0x1680
    || (0x2000 ≤ n && n ≤ 0x200A) || n == 0x2028 || n == 0x2029 || n == 0x202F
    || n == 0x205F || n == 0x3000

/-- The general category `Cc`: the two blocks of control characters. -/
def isControl (c : Char) : Bool :=
  let n := c.toNat
  n ≤ 0x1F || (0x7F ≤ n && n ≤ 0x9F)

section Trimming

/-- The text without the characters of a class at its end. -/
def trimEnd (p : Char → Bool) (cs : List Char) : List Char :=
  (cs.reverse.dropWhile p).reverse

/-- The text without the characters of a class at either end. -/
def trimOf (p : Char → Bool) (cs : List Char) : List Char :=
  trimEnd p (cs.dropWhile p)

/-- The text without white space at either end. -/
def trim (cs : List Char) : List Char :=
  trimOf isBlank cs

/-- The text without double quotes at either end. -/
def unquote (cs : List Char) : List Char :=
  trimOf (· == '"') cs

/-- Nothing but white space. -/
def blank (cs : List Char) : Bool :=
  cs.all isBlank

/-- Nothing but white space. -/
def isBlankText (s : String) : Bool :=
  blank s.toList

end Trimming

section Splitting

/-- The pieces between the characters of a class; one more than there are such characters. -/
def splitWhere (p : Char → Bool) : List Char → List (List Char)
  | [] => [[]]
  | c :: cs =>
    if p c then [] :: splitWhere p cs
    else match splitWhere p cs with
      | [] => [[c]]
      | piece :: pieces => (c :: piece) :: pieces

/-- The maximal runs of characters outside a class. -/
def runsOutside (p : Char → Bool) (cs : List Char) : List (List Char) :=
  (splitWhere p cs).filter (!·.isEmpty)

/-- The words of a text: its maximal runs of characters that are not white space. -/
def words (cs : List Char) : List (List Char) :=
  runsOutside isBlank cs

/-- The text before and after the first occurrence of a character. -/
def splitOnce (sep : Char) : List Char → Option (List Char × List Char)
  | [] => none
  | c :: cs =>
    if c = sep then some ([], cs)
    else (splitOnce sep cs).map fun (before, after) => (c :: before, after)

/-- A line without the carriage return at its end. -/
def chopReturn (line : List Char) : List Char :=
  if line.getLast? = some '\r' then line.dropLast else line

/-- The lines of a text: a line ends at a line feed, with the carriage return before it, and the
empty text after the last line feed is no line. -/
def lines (cs : List Char) : List (List Char) :=
  let pieces := splitWhere (· == '\n') cs
  match pieces.getLast? with
  | some [] => pieces.dropLast.map chopReturn
  | some last => pieces.dropLast.map chopReturn ++ [last]
  | none => []

/-- The text after a given beginning. -/
def dropBeginning? : List Char → List Char → Option (List Char)
  | [], cs => some cs
  | p :: ps, c :: cs => if p = c then dropBeginning? ps cs else none
  | _ :: _, [] => none

/-- The text before a last character. -/
def dropEnding? (c : Char) (cs : List Char) : Option (List Char) :=
  if cs.getLast? = some c then some cs.dropLast else none

/-- Whether one text stands somewhere in another. -/
def occursIn (needle : List Char) : List Char → Bool
  | [] => needle.isEmpty
  | c :: cs => needle.isPrefixOf (c :: cs) || occursIn needle cs

end Splitting

/-- Upper-case ASCII letters become lower case; every other character stays. -/
def asciiLower (cs : List Char) : List Char :=
  cs.map Char.toLower

end Text
end PromptBook

import PromptBook.Text.Blank
import PromptBook.Text.Letters

/-!
# Slugs

The slug of a text holds its letters and digits in lower case; whatever stands between two of them
becomes one underscore.
-/

namespace PromptBook
namespace Text

/-- One more character of a slug.  The slug so far is held in reverse. -/
def slugStep (slug : List Char) (c : Char) : List Char :=
  if isAlphanumeric c then (lower c).reverse ++ slug
  else match slug with
    | [] => []
    | '_' :: _ => slug
    | _ => '_' :: slug

/-- The slug of a text. -/
def slug (cs : List Char) : List Char :=
  trimEnd (· == '_') (cs.foldl slugStep []).reverse

end Text
end PromptBook

/-!
# Failures of files

Why something could not be done with a file.
-/

namespace PromptBook
namespace Files

/-- Why something could not be done with a file. -/
inductive Failure
  | notFound
  | notADirectory
  | isADirectory
  | alreadyThere
  | tooManyLinks
  | nameTooLong
  /-- A path with a character that ends names. -/
  | badPath
  /-- A content that is no UTF-8. -/
  | notText
  deriving DecidableEq, Inhabited

namespace Failure

/-- The failure in words. -/
def message : Failure → String
  | notFound => "No such file or directory (os error 2)"
  | notADirectory => "Not a directory (os error 20)"
  | isADirectory => "Is a directory (os error 21)"
  | alreadyThere => "File exists (os error 17)"
  | tooManyLinks => "Too many levels of symbolic links (os error 40)"
  | nameTooLong => "File name too long (os error 36)"
  | badPath => "file name contained an unexpected NUL byte"
  | notText => "stream did not contain valid UTF-8"

end Failure

end Files
end PromptBook

/-!
# Files

A program asks for the text under a path and gets it or learns why there is none.  Where the files
are is left to whoever answers: a directory that is kept in memory is one such place.
-/

namespace ResourceTemplate

/-- Why there is no text under a path. -/
inductive FileError where
  | notFound
  | notDirectory
  | isDirectory
  /-- The bytes of the file are no text. -/
  | notText
  /-- Anything else that the system tells. -/
  | other (detail : String)
deriving DecidableEq

/-- The wording of the error. -/
def FileError.message : FileError → String
  | notFound => "No such file or directory (os error 2)"
  | notDirectory => "Not a directory (os error 20)"
  | isDirectory => "Is a directory (os error 21)"
  | notText => "stream did not contain valid UTF-8"
  | other detail => detail

/-- An answer to the question for the text under a path. -/
abbrev FileAnswer := Except FileError String

end ResourceTemplate

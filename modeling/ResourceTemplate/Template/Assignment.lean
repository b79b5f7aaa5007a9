import ResourceTemplate.Dict
import ResourceTemplate.Text.Blank
import ResourceTemplate.Text.Line

/-!
# Assignments

A value is assigned to a parameter by name, an equals sign and the value.  The name ends at the
first equals sign and loses the blanks around it; the value is everything behind that sign, as it
stands.

A parameter file has an assignment on each line.  Blanks around a line do not count, and neither do
empty lines and those that begin with a number sign.  Of several assignments to a name the last
counts, and those given beside a file come after those in it.
-/

namespace ResourceTemplate

/-- A value for a parameter. -/
structure Assignment where
  name : String
  value : String
deriving DecidableEq

namespace Assignment

/-- The assignment that a text is, unless it lacks the sign or the name. -/
def read? (text : List Char) : Option Assignment :=
  match text.dropWhile (· ≠ '=') with
  | [] => none
  | _ :: value =>
      match Text.trim (text.takeWhile (· ≠ '=')) with
      | [] => none
      | name => some ⟨String.ofList name, String.ofList value⟩

/-- What is said about a text that is no assignment. -/
def expectation (text : String) : String := s!"expected NAME=VALUE, got '{text}'"

/-- The value that every name is given. -/
def values (assignments : List Assignment) : Dict String :=
  Dict.ofList (assignments.map fun a => (a.name, a.value))

end Assignment

/-- A line of a parameter file that is no assignment; lines are counted from one. -/
structure BadLine where
  number : Nat
  text : String
deriving DecidableEq

/-- The wording of the error, with the path of the file. -/
def BadLine.message (path : String) (e : BadLine) : String :=
  s!"{path}:{e.number}: {Assignment.expectation e.text}"

namespace ParameterFile

/-- Whether a line without its outer blanks says nothing. -/
def isRemark (line : List Char) : Bool :=
  line.isEmpty || line.head? = some '#'

/-- The assignments on lines, of which the first has a given number. -/
def readLines (number : Nat) : List (List Char) → Except BadLine (List Assignment)
  | [] => .ok []
  | line :: rest =>
      let content := Text.trim line
      if isRemark content then readLines (number + 1) rest
      else
        match Assignment.read? content with
        | none => .error ⟨number, String.ofList content⟩
        | some a => (readLines (number + 1) rest).map (a :: ·)

/-- The assignments in a parameter file. -/
def read (text : String) : Except BadLine (List Assignment) :=
  readLines 1 (Text.splitLines text.toList)

end ParameterFile

/-- The values that a parameter file and the assignments given beside it make. -/
def ParameterFile.values (text : String) (beside : List Assignment) :
    Except BadLine (Dict String) :=
  (ParameterFile.read text).map fun inside => Assignment.values (inside ++ beside)

end ResourceTemplate

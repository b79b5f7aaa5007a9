import ResourceTemplate.Command.Help
import ResourceTemplate.Command.Read
import ResourceTemplate.Command.Run

/-!
# The program

Reads the command line, gives the command the texts of the files that it names, and writes what the
command answers.
-/

namespace ResourceTemplate.Command

/-- The number of a system error, which may be told as a negative one. -/
def errorNumber (code : UInt32) : UInt32 := if code < 0x80000000 then code else 0 - code

/-- The error that the system tells of a file. -/
def fileErrorOf (e : IO.Error) : FileError :=
  match e with
  | .noFileOrDirectory .. => .notFound
  | .inappropriateType _ code details =>
      if errorNumber code = 21 then .isDirectory
      else if errorNumber code = 20 then .notDirectory
      else .other s!"{details} (os error {errorNumber code})"
  | .permissionDenied _ code details => .other s!"{details} (os error {errorNumber code})"
  | other => .other (toString other)

/-- The text under a path. -/
def readFile (path : String) : IO FileAnswer := do
  try
    let bytes ← IO.FS.readBinFile path
    match String.fromUTF8? bytes with
    | some text => return .ok text
    | none => return .error .notText
  catch e => return .error (fileErrorOf e)

/-- The texts under several paths. -/
def readFiles (paths : List String) : IO (String → FileAnswer) := do
  let answers ← paths.mapM fun path => return (path, ← readFile path)
  return fun path => (answers.lookup path).getD (.error .notFound)

/-- Write what a command answers; its exit code is zero when it succeeds and one when it fails. -/
def perform (invocation : Invocation) : IO UInt32 := do
  let files ← readFiles invocation.rendering.paths
  let seed := UInt64.ofNat (← IO.monoNanosNow)
  match invocation.run seed files with
  | .ok text =>
      IO.print text
      return 0
  | .error failure =>
      IO.eprint failure.text
      return 1

end ResourceTemplate.Command

open ResourceTemplate.Command in
/-- Run the program; a mistake in the command line gives the exit code two. -/
def main (words : List String) : IO UInt32 := do
  match read words with
  | .ok invocation => perform invocation
  | .error (.help verb?) =>
      IO.print (helpText verb?)
      return 0
  | .error .version =>
      IO.print versionText
      return 0
  | .error (.mistake cause) =>
      IO.eprint cause.report
      return 2

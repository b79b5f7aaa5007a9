import ResourceTemplate.Rendering
import ResourceTemplate.Template.Load
import ResourceTemplate.Text.Line

/-!
# Failures of commands

A failure says what could not be done and names the causes behind it, each the cause of the one
before. A single cause is indented; several are numbered.  The further lines of a cause stand below
its first.
-/

namespace ResourceTemplate

open Expansion

/-- What messages tell of the causes behind the error. -/
def RenderError.causeMessages : RenderError → List String
  | processing problems => [displayAll (problems.map Problem.report)]
  | conversion cause => [cause.message, cause.cause.message]

namespace Command

/-- Why a command failed. -/
structure Failure where
  message : String
  causes : List String
deriving DecidableEq

namespace Failure

/-- Put a margin before each line of a text; that of the first line may look different. -/
def hang (first margin : String) (text : String) : String :=
  let body := (Text.splitLines text.toList).intersperse ('\n' :: margin.toList)
  first ++ String.ofList body.flatten

/-- Causes with their numbers. -/
def numbered (number : Nat) : List String → List String
  | [] => []
  | cause :: rest =>
      let digits := toString number
      let margin := "".pushn ' ' (5 - digits.length)
      hang (margin ++ digits ++ ": ") "       " cause :: numbered (number + 1) rest

/-- The causes as they are listed. -/
def causeLines : List String → List String
  | [cause] => [hang "    " "    " cause]
  | causes => numbered 0 causes

/-- The text of a failure. -/
def text (f : Failure) : String :=
  let causes :=
    if f.causes.isEmpty then ""
    else "\n\nCaused by:" ++ String.join ((causeLines f.causes).map ("\n" ++ ·))
  "Error: " ++ f.message ++ causes ++ "\n"

/-- A template could not be loaded. -/
def ofLoadError (path : String) (e : LoadError) : Failure :=
  ⟨s!"failed to load template '{path}'", e.message :: e.causeMessage?.toList⟩

/-- A parameter file could not be read. -/
def ofFileError (path : String) (e : FileError) : Failure :=
  ⟨s!"failed to read parameter file '{path}'", [e.message]⟩

/-- A template could not be rendered. -/
def ofRenderError (path : String) (e : RenderError) : Failure :=
  ⟨s!"failed to render '{path}'", e.message :: e.causeMessages⟩

/-- No cluster can be reached. -/
def noCluster (context? : Option String) : Failure :=
  match context? with
  | some context => ⟨s!"failed to load kubeconfig context '{context}'", []⟩
  | none => ⟨"failed to infer cluster configuration", []⟩

end Failure

end Command

end ResourceTemplate

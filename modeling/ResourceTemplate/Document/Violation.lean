import ResourceTemplate.Number.Shortest
import ResourceTemplate.Text.Quoted

/-!
# Violations of an expected shape

A document that is read at a type either has that type or violates it somewhere.  A violation says
where, as the steps from the root, and why.  The wording of a cause is the same for every document;
only the word for the empty value depends on where it was written.
-/

namespace ResourceTemplate.Document

/-- What stands at a place, as messages call it. -/
inductive Found where
  | null
  | unit
  | boolean (b : Bool)
  | integer (i : Int)
  /-- An integer beyond 64 bits. -/
  | wideInteger (i : Int)
  | floating (d : Binary64)
  /-- A number that no finite double is: infinity, or none at all. -/
  | unbounded (name : String)
  | text (s : String)
  | sequence
  | mapping
  | tagged
deriving DecidableEq

/-- Messages show every digit of a double. -/
def layout : Binary64.Layout := ⟨false, false⟩

/-- The description of what was found. -/
def Found.description : Found → String
  | null => "null"
  | unit => "unit value"
  | boolean b => s!"boolean `{b}`"
  | integer i => s!"integer `{i}`"
  | wideInteger i => s!"integer `{i}` as " ++ if 0 ≤ i then "u128" else "i128"
  | floating d => s!"floating point `{d.text layout}`"
  | unbounded name => s!"floating point `{name}`"
  | text s => "string " ++ Text.quoted s
  | sequence => "sequence"
  | mapping => "map"
  | tagged => "enum"

/-- One step from a document to a part of it. -/
inductive Step where
  | member (key : String)
  | item (index : Nat)
  /-- A member whose key is not a text. -/
  | nameless
deriving DecidableEq

/-- Append one step to a written path; `none` is the path of the root. -/
def Step.extend (parent : Option String) : Step → Option String
  | member key => some ((parent.map (· ++ ".")).getD "" ++ key)
  | item index => some ((parent.getD ".") ++ s!"[{index}]")
  | nameless => some ((parent.map (· ++ ".")).getD "" ++ "?")

/-- How a path is written; nothing for the root. -/
def pathText (path : List Step) : Option String :=
  path.foldl Step.extend none

/-- Why a document does not have the expected shape. -/
inductive Cause where
  | unexpectedType (found : Found) (wanted : String)
  | unexpectedValue (found : Found) (wanted : String)
  | missingField (name : String)
  | duplicateField (name : String)
  | wrongLength (length : Nat) (wanted : String)
  /-- The content of a text is not of the form that its type asks for. -/
  | malformed (detail : String)
  /-- The document cannot be read at this place at all. -/
  | unreadable
deriving DecidableEq

/-- The wording of a cause. -/
def Cause.message : Cause → String
  | unexpectedType found wanted => s!"invalid type: {found.description}, expected {wanted}"
  | unexpectedValue found wanted => s!"invalid value: {found.description}, expected {wanted}"
  | missingField name => s!"missing field `{name}`"
  | duplicateField name => s!"duplicate field `{name}`"
  | wrongLength length wanted => s!"invalid length {length}, expected {wanted}"
  | malformed detail => detail
  | unreadable => "unreadable"

/-- The side of a node at which reading had arrived when a violation came to light. -/
inductive Side where
  /-- Before the node. -/
  | start
  /-- Behind the bracket that opens the node, and behind the closing one if it follows at once. -/
  | opened
  /-- Behind the node. -/
  | stop
  /-- Behind the node and whatever closes what contains it. -/
  | after
deriving DecidableEq

/-- A cause with the path to its place and the place's annotation. -/
structure Violation (Place : Type) where
  cause : Cause
  path : List Step
  place : Place
  side : Side

namespace Violation

variable {Place : Type}

/-- The same violation, seen from one step further out. -/
def under (step : Step) (v : Violation Place) : Violation Place :=
  { v with path := step :: v.path }

end Violation

end ResourceTemplate.Document

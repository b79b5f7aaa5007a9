import ResourceTemplate.Document.Record
import ResourceTemplate.Manifest.Resource

/-!
# Reading a template from a document

A template and its parameters are records whose fields stand in any order.  Every field but the name
of a parameter has a default.  Only optional texts may be null.
-/

namespace ResourceTemplate

open Document

variable {Place : Type}

namespace Parameter

/-- A parameter of a name without any other content. -/
def named (name : String) : Parameter := ⟨name, none, none, none, none, none, false⟩

/-- What messages call a parameter. -/
def wanted : String := "struct Parameter"

/-- What is wanted where an optional text may stand. -/
def wantedText : String := "a string"

/-- Set a field of a parameter. -/
def setField (p : Parameter) (field : String) (node : Node Place) :
    Except (Violation Place) Parameter :=
  match field with
  | "name" => (node.text wantedText).map fun s => { p with name := s }
  | "displayName" => (node.optionalText wantedText).map fun s => { p with displayName? := s }
  | "description" => (node.optionalText wantedText).map fun s => { p with description? := s }
  | "value" => (node.optionalText wantedText).map fun s => { p with value? := s }
  | "generate" => (node.optionalText wantedText).map fun s => { p with generate? := s }
  | "from" => (node.optionalText wantedText).map fun s => { p with expression? := s }
  | "required" => (node.flag "a boolean").map fun b => { p with required := b }
  | _ => .ok p

/-- The fields of a parameter in their order. -/
def fieldNames : List String :=
  ["name", "displayName", "description", "value", "generate", "from", "required"]

/-- How a parameter is read. -/
def reader : RecordReader Place Parameter where
  name := wanted
  fields := fieldNames
  set := setField

/-- The violation of a parameter without a name. -/
def nameless (positional : Bool) (node : Node Place) : Violation Place :=
  match positional, node with
  | true, .sequence _ _ _ => node.fault (.wrongLength 0 "struct Parameter with 7 elements")
  | _, _ => node.fault (.missingField "name")

/-- Read a parameter. -/
def read (positional : Bool) (node : Node Place) : Except (Violation Place) Parameter :=
  match reader.read positional (named "") node with
  | .error v => .error v
  | .ok (p, seen) =>
      if !seen.contains "name" then .error (nameless positional node)
      else
        match RecordReader.surplus? fieldNames positional node with
        | some v => .error v
        | none => .ok p

end Parameter

namespace Template

/-- Read parameters, from a position on. -/
def readParameters (positional : Bool) (index : Nat) :
    List (Node Place) → Except (Violation Place) (List Parameter)
  | [] => .ok []
  | node :: rest =>
      match Parameter.read positional node with
      | .error v => .error (v.under (.item index))
      | .ok p => (readParameters positional (index + 1) rest).map (p :: ·)

/-- Read labels, added to those that were read before. -/
def readLabels (before : Dict String) :
    List (Node Place × Node Place) → Except (Violation Place) (Dict String)
  | [] => .ok before
  | (key, node) :: rest =>
      match key.text Parameter.wantedText with
      | .error v => .error v
      | .ok name =>
          match node.text Parameter.wantedText with
          | .error v => .error (v.under key.keyStep)
          | .ok value => readLabels (before.insert name value) rest

/-- Set a field of a template. -/
def setField (positional : Bool) (t : Template) (field : String) (node : Node Place) :
    Except (Violation Place) Template :=
  match field with
  | "apiVersion" => (node.text Parameter.wantedText).map fun s => { t with apiVersion := s }
  | "kind" => (node.text Parameter.wantedText).map fun s => { t with kind := s }
  | "metadata" => (Resource.readMetadata node).map fun m => { t with metadata := m }
  | "message" =>
      (node.optionalText Parameter.wantedText).map fun s => { t with message? := s }
  | "objects" => do
      let objects ← Node.values 0 (← node.items "a sequence")
      return { t with objects := objects }
  | "parameters" => do
      let parameters ← readParameters positional 0 (← node.items "a sequence")
      return { t with parameters := parameters }
  | "labels" => do
      let labels ← readLabels [] (← node.entries "a map")
      return { t with labels := labels }
  | _ => .ok t

/-- The fields of a template in their order. -/
def fieldNames : List String :=
  ["apiVersion", "kind", "metadata", "message", "objects", "parameters", "labels"]

/-- How a template is read. -/
def reader (positional : Bool) : RecordReader Place Template where
  name := "struct Template"
  fields := fieldNames
  set := setField positional

/-- Read a template; `positional` says whether records may be written as lists. -/
def read (positional : Bool) (node : Node Place) : Except (Violation Place) Template :=
  match (reader positional).read positional .empty node with
  | .error v => .error v
  | .ok (t, _) =>
      match RecordReader.surplus? fieldNames positional node with
      | some v => .error v
      | none => .ok t

end Template

end ResourceTemplate

import ResourceTemplate.Expansion.Reference
import ResourceTemplate.Json.Basic

/-!
# Namespaces and labels of objects

An object that names its namespace outright loses it, so that it lands where it is applied; a
namespace that refers to a parameter is kept.

The labels of a template are merged into the labels of each object and win over them.  The merge
creates what is missing on the way, and changes nothing when something on the way is not a map.
-/

namespace ResourceTemplate.Expansion

/-- Whether a namespace refers to a parameter. -/
def isParameterized (namespaceValue : Option Json) : Bool :=
  match namespaceValue with
  | some (.string s) => hasReference s
  | _ => false

/-- Remove the namespace from an object's metadata unless it refers to a parameter. -/
def stripNamespace (object : Json) : Json :=
  match object with
  | .object members =>
      match Dict.find? members "metadata" with
      | some (.object metadata) =>
          if isParameterized (Dict.find? metadata "namespace") then object
          else .object (Dict.insert members "metadata" (.object (Dict.erase metadata "namespace")))
      | _ => object
  | _ => object

/-- What labels cannot be merged into. -/
inductive LabelError where
  | objectNotMap
  | metadataNotMap
  | labelsNotMap
deriving DecidableEq

/-- The wording of the error. -/
def LabelError.message : LabelError → String
  | objectNotMap => "object is not a map"
  | metadataNotMap => "metadata is not a map"
  | labelsNotMap => "metadata.labels is not a map"

/-- The map that stands at a place, or an empty one when nothing stands there. -/
def mapOrEmpty? : Option Json → Option (Dict Json)
  | none => some []
  | some (.object members) => some members
  | some _ => none

/-- Put labels over the entries of a map. -/
def overlay (labels : Dict String) (entries : Dict Json) : Dict Json :=
  labels.foldl (fun entries label => entries.insert label.1 (.string label.2)) entries

/-- The labels that an object has of its own; a null counts as none. -/
def ownLabels? (metadata : Dict Json) : Option (Dict Json) :=
  match metadata.find? "labels" with
  | some .null => some []
  | other => mapOrEmpty? other

/-- Merge labels into an object. -/
def mergeLabels (labels : Dict String) (object : Json) : Except LabelError Json :=
  if labels.isEmpty then .ok object
  else
    match object with
    | .object members =>
        match mapOrEmpty? (Dict.find? members "metadata") with
        | none => .error .metadataNotMap
        | some metadata =>
            match ownLabels? metadata with
            | none => .error .labelsNotMap
            | some own =>
                let merged := metadata.insert "labels" (.object (overlay labels own))
                .ok (.object (Dict.insert members "metadata" (.object merged)))
    | _ => .error .objectNotMap

end ResourceTemplate.Expansion

import ResourceTemplate.Schema.Read
import ResourceTemplate.Template.Basic

/-!
# Resources

A resource is an object taken apart: its type, its metadata in normal form, and the rest of it as it
was written.  A resource has a type when both the API version and the kind are texts.
-/

namespace ResourceTemplate

open Document

/-- What kind of object a resource is. -/
structure TypeMeta where
  apiVersion : String
  kind : String
deriving DecidableEq

/-- An object taken apart. -/
structure Resource where
  types? : Option TypeMeta
  metadata : Metadata
  /-- The members that are neither the type nor the metadata. -/
  rest : Dict Json

namespace Resource

/-- The API version, empty without a type. -/
def apiVersion (r : Resource) : String := (r.types?.map TypeMeta.apiVersion).getD ""

/-- The kind, empty without a type. -/
def kind (r : Resource) : String := (r.types?.map TypeMeta.kind).getD ""

/-- The name, empty when there is none. -/
def name (r : Resource) : String := r.metadata.name?.getD ""

/-- The namespace, unless it is empty. -/
def namespaceName? (r : Resource) : Option String :=
  r.metadata.namespaceName?.filter (· ≠ "")

/-- Put a resource together again. -/
def toJson (r : Resource) : Json :=
  let typed : Dict Json :=
    match r.types? with
    | some t => Dict.insert (Dict.insert [] "apiVersion" (.string t.apiVersion)) "kind" (.string t.kind)
    | none => []
  let described := typed.insert "metadata" r.metadata.toJson
  .object (r.rest.foldl (fun (members : Dict Json) entry => members.insert entry.1 entry.2)
    described)

/-- Take the type out of entries.  The entries are looked at in order; the first that does not fit
ends the search, and what was taken out until then stays out. -/
def claimType (apiVersion? kind? : Option String) :
    List (String × Json) → Option TypeMeta × List (String × Json)
  | [] =>
      match apiVersion?, kind? with
      | some apiVersion, some kind => (some ⟨apiVersion, kind⟩, [])
      | _, _ => (none, [])
  | (key, value) :: rest =>
      if key = "apiVersion" then
        match apiVersion?, value with
        | none, .string s => claimType (some s) kind? rest
        | _, _ => (none, rest)
      else if key = "kind" then
        match kind?, value with
        | none, .string s => claimType apiVersion? (some s) rest
        | _, _ => (none, rest)
      else
        let claimed := claimType apiVersion? kind? rest
        (claimed.1, (key, value) :: claimed.2)

variable {Place : Type}

/-- What messages call the type of resources. -/
def wanted : String := "struct DynamicObject"

/-- Read metadata. -/
def readMetadata (node : Node Place) : Except (Violation Place) Metadata :=
  match Schema.read (.record "ObjectMeta") node with
  | .error v => .error v
  | .ok value => .ok ⟨value.asObject?.getD []⟩

/-- Read the entries of an object, added to those that were read before. -/
def readEntries (metadata? : Option Metadata) (before : List (String × Json)) :
    List (Node Place × Node Place) → Except (Violation Place) Resource
  | [] =>
      let claimed := claimType none none before
      .ok ⟨claimed.1, metadata?.getD .empty, Dict.ofList claimed.2⟩
  | (key, node) :: more =>
      match key.text fieldName with
      | .error v => .error v
      | .ok "metadata" =>
          match metadata? with
          | some _ => .error ⟨.duplicateField "metadata", [], key.place, .after⟩
          | none =>
              match readMetadata node with
              | .error v => .error (v.under (.member "metadata"))
              | .ok metadata => readEntries (some metadata) before more
      | .ok name =>
          match node.value with
          | .error v => .error (v.under (.member name))
          | .ok value => readEntries metadata? (before ++ [(name, value)]) more

/-- Read a document as a resource. -/
def read (node : Node Place) : Except (Violation Place) Resource :=
  match node with
  | .mapping _ _ entries => readEntries none [] entries
  | other => .error (other.mismatch wanted)

end Resource

end ResourceTemplate

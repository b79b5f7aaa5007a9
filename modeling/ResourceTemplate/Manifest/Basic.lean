import ResourceTemplate.Manifest.Resource

/-!
# Manifests and rendered objects

A manifest is a resource that is ready to be sent, together with whether its kind was known and its
content checked.  A rendered object keeps the raw value that was rendered beside the manifest
decoded from it; a value that does not say what it is has no manifest.
-/

namespace ResourceTemplate

/-- An API version cut at its first slash into group and version; without a slash the group is
empty. -/
def splitApiVersion (apiVersion : String) : String × String :=
  let chars := apiVersion.toList
  match chars.dropWhile (· ≠ '/') with
  | [] => ("", apiVersion)
  | _ :: version => (String.ofList (chars.takeWhile (· ≠ '/')), String.ofList version)

/-- What identifies a resource when it is read back. -/
structure ResourceId where
  apiVersion : String
  kind : String
  name : String
  namespaceName? : Option String
deriving DecidableEq

namespace ResourceId

/-- The group and the version of the kind. -/
def groupVersion (id : ResourceId) : String × String := splitApiVersion id.apiVersion

/-- How messages call a resource. -/
def display (id : ResourceId) : String :=
  match id.namespaceName? with
  | some ns => s!"{id.kind}/{id.name} in namespace '{ns}'"
  | none => s!"{id.kind}/{id.name}"

end ResourceId

/-- A resource that is ready to be sent. -/
structure Manifest where
  /-- Whether the kind is known and the content was checked. -/
  typed : Bool
  resource : Resource

namespace Manifest

/-- The version of the kind, without its group. -/
def version (m : Manifest) : String := (splitApiVersion m.resource.apiVersion).2

/-- What identifies the resource. -/
def id (m : Manifest) : ResourceId :=
  ⟨m.resource.apiVersion, m.resource.kind, m.resource.name, m.resource.namespaceName?⟩

end Manifest

/-- A rendered value and the manifest decoded from it. -/
structure RenderedObject where
  raw : Json
  manifest? : Option Manifest

namespace RenderedObject

/-- The kind that the value states. -/
def kind? (o : RenderedObject) : Option String := o.raw.getString? "kind"

/-- The API version that the value states. -/
def apiVersion? (o : RenderedObject) : Option String := o.raw.getString? "apiVersion"

/-- The name that the value states. -/
def name? (o : RenderedObject) : Option String :=
  (o.raw.get? "metadata").bind (·.getString? "name")

/-- The namespace that the value states, unless it is empty. -/
def namespaceName? (o : RenderedObject) : Option String :=
  ((o.raw.get? "metadata").bind (·.getString? "namespace")).filter (· ≠ "")

end RenderedObject

end ResourceTemplate

import ResourceTemplate.Cluster.Client

/-!
# Discovery

Before a resource is sent, the cluster is asked for the list of the resources of its API version.
The first entry of the kind that is not a part of another resource says where resources of the kind
are found, and whether they live in namespaces.
-/

namespace ResourceTemplate.Cluster

/-- An entry of a list of resources. -/
structure ResourceEntry where
  name : String
  kind : String
  namespaced : Bool
  group? : Option String

/-- The resources of an API version. -/
structure ResourceList where
  groupVersion : String
  resources : List ResourceEntry

namespace ResourceEntry

/-- The entry that a value describes; what it does not say is empty. -/
def ofJson (value : Json) : ResourceEntry :=
  { name := (value.getString? "name").getD ""
    kind := (value.getString? "kind").getD ""
    namespaced := match value.get? "namespaced" with
      | some (.bool b) => b
      | _ => false
    group? := value.getString? "group" }

/-- Whether the entry is a part of another resource. -/
def isPart (e : ResourceEntry) : Bool := e.name.toList.contains '/'

end ResourceEntry

namespace ResourceList

open Document

variable {Place : Type}

/-- The list that a value describes. -/
def ofJson (value : Json) : ResourceList :=
  { groupVersion := (value.getString? "groupVersion").getD ""
    resources := match value.get? "resources" with
      | some (.array entries) => entries.map ResourceEntry.ofJson
      | _ => [] }

/-- Read a document as a list of resources. -/
def read (node : Node Place) : Except (Violation Place) ResourceList :=
  (Schema.read (.record "APIResourceList") node).map ofJson

end ResourceList

/-- Where the resources of a kind are found. -/
structure Location where
  /-- Whether the kind belongs to a group. -/
  grouped : Bool
  apiVersion : String
  plural : String
  namespaced : Bool
deriving DecidableEq

/-- The address under which the list of an API version is found. -/
def discoveryPath (apiVersion : String) : String :=
  match splitApiVersion apiVersion with
  | ("", version) => s!"/api/{version}"
  | (group, version) => s!"/apis/{group}/{version}"

/-- The API version that a group and a version make. -/
def joinApiVersion (groupVersion : String × String) : String :=
  match groupVersion with
  | ("", version) => version
  | (group, version) => s!"{group}/{version}"

/-- Where the resources of a kind are found, if a list knows them.  Whether they live in namespaces
is told by the first entry of their name. -/
def ResourceList.locate? (list : ResourceList) (kind : String) : Option Location :=
  match list.resources.find? fun e => e.kind = kind && !e.isPart with
  | none => none
  | some entry =>
      let groupVersion := splitApiVersion list.groupVersion
      let namespaced := ((list.resources.find? fun e => e.name = entry.name).map
        ResourceEntry.namespaced).getD entry.namespaced
      some
        { grouped := entry.group?.getD groupVersion.1 ≠ ""
          apiVersion := joinApiVersion groupVersion
          plural := entry.name
          namespaced := namespaced }

/-- The namespace under which resources of a kind are found: none for a kind that lives outside
namespaces, else the given one or the default. -/
def Location.scope (l : Location) (defaultNamespace : String) (given : Option String) :
    Option String :=
  if l.namespaced then some (given.getD defaultNamespace) else none

/-- The address of the resources of a kind in a namespace. -/
def Location.path (l : Location) (ns : Option String) : String :=
  let root := if l.grouped then "/apis/" else "/api/"
  let scope := match ns with
    | some ns => s!"namespaces/{ns}/"
    | none => ""
  root ++ l.apiVersion ++ "/" ++ scope ++ l.plural

end ResourceTemplate.Cluster

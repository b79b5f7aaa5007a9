import ResourceTemplate.Cluster.Client

/-!
# A cluster in memory

The cluster keeps resources by kind, name and namespace.  Every write gives the stored resource a
new version, counted from one.  A resource without a namespace is put into the default namespace,
unless it is a namespace itself.  An update that carries a version must carry the current one.
-/

namespace ResourceTemplate.Cluster

/-- The key under which a resource is kept. -/
structure Key where
  kind : String
  name : String
  namespaceName? : Option String
deriving DecidableEq

/-- A cluster in memory. -/
structure Memory where
  stored : Key → Option Resource
  /-- The number of versions given out. -/
  issued : Nat
  /-- The names that may not be created. -/
  rejected : List String
  defaultNamespace? : Option String

namespace Memory

/-- The kind of namespaces. -/
def namespaceKind : String := "Namespace"

/-- A cluster that keeps nothing yet. -/
def empty (rejected : List String) (defaultNamespace? : Option String) : Memory :=
  ⟨fun _ => none, 0, rejected, defaultNamespace?⟩

/-- The key of a resource. -/
def keyOf (r : Resource) : Key := ⟨r.kind, r.name, r.namespaceName?⟩

/-- Put a resource without a namespace into the default one. -/
def place (cluster : Memory) (r : Resource) : Resource :=
  if r.metadata.namespaceName?.isNone ∧ r.kind ≠ namespaceKind then
    { r with metadata := r.metadata.withNamespace cluster.defaultNamespace? }
  else r

/-- The text of the next version. -/
def nextVersion (cluster : Memory) : String := toString (cluster.issued + 1)

/-- A resource with a version. -/
def stamp (version : String) (r : Resource) : Resource :=
  { r with metadata := r.metadata.withResourceVersion (some version) }

/-- Keep a resource under a key with the next version. -/
def write (cluster : Memory) (key : Key) (r : Resource) : Resource × Memory :=
  let kept := stamp cluster.nextVersion r
  (kept, { cluster with
    stored := fun k => if k = key then some kept else cluster.stored k
    issued := cluster.issued + 1 })

/-- Keep a resource as it is given; the version that it gets is returned. -/
def seed (cluster : Memory) (r : Resource) : String × Memory :=
  (cluster.nextVersion, (cluster.write (keyOf r) r).2)

/-- The status of a failure. -/
def status (code : Nat) (reason message : String) : ClientError :=
  .api ⟨"Failure", message, reason, code⟩

/-- The failure of a request for a name that is not kept. -/
def notFound (name : String) : ClientError := status 404 "NotFound" s!"{name} not found"

/-- Create a resource. -/
def create (cluster : Memory) (r : Resource) : Except ClientError Resource × Memory :=
  let r := cluster.place r
  let key := keyOf r
  if cluster.rejected.contains key.name then
    (.error (status 422 "Invalid" s!"{key.name} is invalid"), cluster)
  else
    match cluster.stored key with
    | some _ => (.error (.alreadyExists s!"{key.name} already exists"), cluster)
    | none =>
        let written := cluster.write key r
        (.ok written.1, written.2)

/-- The key that an id asks for. -/
def keyOfId (cluster : Memory) (id : ResourceId) : Key :=
  let ns := if id.namespaceName?.isNone ∧ id.kind ≠ namespaceKind then cluster.defaultNamespace?
    else id.namespaceName?
  ⟨id.kind, id.name, ns⟩

/-- Read a resource. -/
def get (cluster : Memory) (id : ResourceId) : Except ClientError Resource :=
  match cluster.stored (cluster.keyOfId id) with
  | some r => .ok r
  | none => .error (notFound id.name)

/-- Replace a resource. -/
def update (cluster : Memory) (r : Resource) : Except ClientError Resource × Memory :=
  let r := cluster.place r
  let key := keyOf r
  match cluster.stored key with
  | none => (.error (notFound key.name), cluster)
  | some current =>
      if r.metadata.resourceVersion?.isSome ∧
          current.metadata.resourceVersion? ≠ r.metadata.resourceVersion? then
        (.error (status 409 "Conflict" "the object has been modified"), cluster)
      else
        let written := cluster.write key r
        (.ok written.1, written.2)

/-- The cluster as a client. -/
def client : Client Memory := fun request cluster =>
  match request with
  | .create r => cluster.create r
  | .get id => (cluster.get id, cluster)
  | .update r => cluster.update r

end Memory

end ResourceTemplate.Cluster

import ResourceTemplate.Cluster.Client

/-!
# Applying rendered objects

Each object is created; if it exists already it is replaced.  An object whose kind is not known is
first read back, so that the replacement carries the version of what it replaces; an object of a
known kind is replaced as it is.  Objects are applied in order, those without a manifest are passed
over, and the first failure ends the work.
-/

namespace ResourceTemplate.Cluster

/-- What became of an object. -/
inductive Action where
  | created
  | updated
deriving DecidableEq

/-- The outcome of applying one object; the namespace is the one that the cluster put it in. -/
structure Outcome where
  id : ResourceId
  action : Action
deriving DecidableEq

/-- The step at which applying an object failed. -/
inductive Phase where
  | create
  | get
  | update
deriving DecidableEq

/-- Why an object could not be applied. -/
structure ApplyError where
  kind : String
  version : String
  phase : Phase
  id : ResourceId
  cause : ClientError
deriving DecidableEq

namespace ApplyError

/-- The wording of the step that failed. -/
def phaseMessage (e : ApplyError) : String :=
  let place := s!"resource of kind '{e.id.kind}' and name '{e.id.name}' in namespace '"
    ++ e.id.namespaceName?.getD "" ++ "': " ++ e.cause.message
  match e.phase with
  | .create => s!"failed to create object {e.id.display}: {e.cause.message}"
  | .get => "unable to get the " ++ place
  | .update => "unable to update the " ++ place

/-- The wording of the error. -/
def message (e : ApplyError) : String :=
  s!"unable to create resource of kind: {e.kind}, version: {e.version}: {e.phaseMessage}"

end ApplyError

variable {State : Type}

/-- The outcome told of an object, given what the cluster holds now. -/
def outcome (id : ResourceId) (action : Action) (live : Resource) : Outcome :=
  match live.namespaceName? with
  | some ns => ⟨{ id with namespaceName? := some ns }, action⟩
  | none => ⟨id, action⟩

/-- The object that replaces what the cluster holds. -/
def replacement (desired existing : Resource) : Resource :=
  { desired with
    metadata := desired.metadata.withResourceVersion existing.metadata.resourceVersion? }

/-- The step that failed, and why. -/
abbrev PhaseError := Phase × ClientError

/-- Replace an object. -/
def replace (client : Client State) (id : ResourceId) (desired : Resource) (state : State) :
    Except PhaseError Outcome × State :=
  match client (.update desired) state with
  | (.ok live, state) => (.ok (outcome id .updated live), state)
  | (.error cause, state) => (.error (.update, cause), state)

/-- Create an object, or replace the one that exists. -/
def createOrUpdate (client : Client State) (m : Manifest) (state : State) :
    Except PhaseError Outcome × State :=
  let id := m.id
  match client (.create m.resource) state with
  | (.ok live, state) => (.ok (outcome id .created live), state)
  | (.error (.alreadyExists _), state) =>
      if m.typed then replace client id m.resource state
      else
        match client (.get id) state with
        | (.ok existing, state) => replace client id (replacement m.resource existing) state
        | (.error cause, state) => (.error (.get, cause), state)
  | (.error cause, state) => (.error (.create, cause), state)

/-- Apply objects in order, up to the first that fails. -/
def apply (client : Client State) :
    List RenderedObject → State → Except ApplyError (List Outcome) × State
  | [], state => (.ok [], state)
  | object :: rest, state =>
      match object.manifest? with
      | none => apply client rest state
      | some m =>
          match createOrUpdate client m state with
          | (.ok first, state) =>
              let applied := apply client rest state
              (applied.1.map (first :: ·), applied.2)
          | (.error (phase, cause), state) =>
              (.error ⟨m.resource.kind, m.version, phase, m.id, cause⟩, state)

end ResourceTemplate.Cluster

import ResourceTemplate.Cluster.Target
import ResourceTemplate.Json.Decode
import ResourceTemplate.Manifest.Basic

/-!
# Clients of a cluster

A client answers requests to create, read and replace resources.  It is a machine: each request
takes it to its next state.  Whatever a client does, a recording client does too, and keeps the
requests in the order in which they were made.
-/

namespace ResourceTemplate.Cluster

/-- The status that a cluster gives with an error. -/
structure ApiStatus where
  status : String
  message : String
  reason : String
  code : Nat
deriving DecidableEq

/-- Why a request did not get an answer from the cluster. -/
inductive TransportError where
  /-- There is no way to reach the cluster. -/
  | unreachable
  /-- The service failed. -/
  | service (detail : String)
  /-- The address of a discovery is no target. -/
  | badDiscoveryTarget (fault : TargetFault)
  /-- The address of a request is no target. -/
  | badTarget (fault : TargetFault)
  /-- A request for a single resource does not name it. -/
  | emptyName
  /-- The cluster does not know the kind. -/
  | unknownKind (group version kind : String)
  /-- The answer cannot be read. -/
  | unreadable (cause : Json.DecodeError)
deriving DecidableEq

/-- The wording of an error. -/
def TransportError.message : TransportError → String
  | unreachable => "TLS required but no TLS stack selected"
  | service detail => s!"ServiceError: {detail}"
  | badDiscoveryTarget fault => "HttpError: " ++ fault.message
  | badTarget fault => "Failed to build request: failed to build request: " ++ fault.message
  | emptyName =>
      "Failed to build request: failed to validate request: A non-empty name is required"
  | unknownKind group version kind =>
      "Error from discovery: Missing Kind: GroupVersionKind \x7b group: " ++ Text.quoted group ++
        ", version: " ++ Text.quoted version ++ ", kind: " ++ Text.quoted kind ++ " \x7d"
  | unreadable cause => "Error deserializing response: " ++ cause.message

/-- Why a request failed. -/
inductive ClientError where
  | alreadyExists (message : String)
  | api (status : ApiStatus)
  | transport (cause : TransportError)
  /-- The object does not say what it is. -/
  | missingType
  /-- The object has no name. -/
  | missingName (kind : String)
deriving DecidableEq

namespace ClientError

/-- The wording of an error. -/
def message : ClientError → String
  | alreadyExists message => s!"already exists: {message}"
  | api status => s!"API error: {status.message}: {status.reason}"
  | transport cause => "kube client error: " ++ cause.message
  | missingType => "object has no apiVersion/kind"
  | missingName kind => s!"object of kind '{kind}' has no name"

/-- The code and the reason by which a cluster says that a resource exists already. -/
def existsCode : Nat := 409

/-- The reason by which a cluster says that a resource exists already. -/
def existsReason : String := "AlreadyExists"

/-- The error of a status. -/
def ofStatus (status : ApiStatus) : ClientError :=
  if status.code = existsCode ∧ status.reason = existsReason then alreadyExists status.message
  else api status

end ClientError

/-- A request to a cluster. -/
inductive Request where
  | create (object : Resource)
  | get (id : ResourceId)
  | update (object : Resource)

/-- A machine that answers requests. -/
abbrev Client (State : Type) := Request → State → Except ClientError Resource × State

/-- A client that keeps the requests made to it, the latest last. -/
def Client.recording {State : Type} (client : Client State) : Client (List Request × State) :=
  fun request state =>
    let answered := client request state.2
    (answered.1, (state.1 ++ [request], answered.2))

end ResourceTemplate.Cluster

import ResourceTemplate.Cluster.Discovery
import ResourceTemplate.Document.Record

/-!
# A cluster behind an HTTP service

Every request to the cluster first discovers where the resources of the kind are found, and then is
sent there.  An answer of the classes 4xx and 5xx is an error whose status is the body, if the body
describes one; any other answer is a success whose body is the resource.
-/

namespace ResourceTemplate.Cluster

open Document

/-- A method of requests. -/
inductive Method where
  | get
  | post
  | put
deriving DecidableEq

/-- The name of a method. -/
def Method.text : Method → String
  | get => "GET"
  | post => "POST"
  | put => "PUT"

/-- A request to an HTTP service. -/
structure HttpRequest where
  method : Method
  target : String
  body? : Option Json

/-- An answer of an HTTP service. -/
structure HttpResponse where
  status : Nat
  body : String

/-- A service that answers requests or fails with a detail. -/
abbrev Service (State : Type) := HttpRequest → State → Except String HttpResponse × State

/-- A service that keeps the requests made to it, the latest last. -/
def Service.recording {State : Type} (service : Service State) :
    Service (List HttpRequest × State) :=
  fun request state =>
    let answered := service request state.2
    (answered.1, (state.1 ++ [request], answered.2))

/-- The service whose answers are a list; without one left it fails. -/
def scriptedService : Service (List HttpResponse) := fun _ responses =>
  match responses with
  | [] => (.error "no response scripted", [])
  | response :: rest => (.ok response, rest)

/-- The reason given when the body of an error describes no status. -/
def unparsedReason : String := "Failed to parse error data"

/-- The reasons that go with the codes of errors. -/
def errorReasons : List (Nat × String) :=
  [(400, "Bad Request"), (401, "Unauthorized"), (402, "Payment Required"), (403, "Forbidden"),
    (404, "Not Found"), (405, "Method Not Allowed"), (406, "Not Acceptable"),
    (407, "Proxy Authentication Required"), (408, "Request Timeout"), (409, "Conflict"),
    (410, "Gone"), (411, "Length Required"), (412, "Precondition Failed"),
    (413, "Payload Too Large"), (414, "URI Too Long"), (415, "Unsupported Media Type"),
    (416, "Range Not Satisfiable"), (417, "Expectation Failed"), (418, "I'm a teapot"),
    (421, "Misdirected Request"), (422, "Unprocessable Entity"), (423, "Locked"),
    (424, "Failed Dependency"), (425, "Too Early"), (426, "Upgrade Required"),
    (428, "Precondition Required"), (429, "Too Many Requests"),
    (431, "Request Header Fields Too Large"), (451, "Unavailable For Legal Reasons"),
    (500, "Internal Server Error"), (501, "Not Implemented"), (502, "Bad Gateway"),
    (503, "Service Unavailable"), (504, "Gateway Timeout"), (505, "HTTP Version Not Supported"),
    (506, "Variant Also Negotiates"), (507, "Insufficient Storage"), (508, "Loop Detected"),
    (510, "Not Extended"), (511, "Network Authentication Required")]

/-- The code of an error with its reason. -/
def HttpResponse.statusText (r : HttpResponse) : String :=
  toString r.status ++ " " ++ (errorReasons.lookup r.status).getD "<unknown status code>"

/-- Whether an answer is an error. -/
def HttpResponse.isError (r : HttpResponse) : Bool := 400 ≤ r.status && r.status < 600

/-- Set a field of a status. -/
def ApiStatus.setField {Place : Type} (s : ApiStatus) (field : String) (node : Node Place) :
    Except (Violation Place) ApiStatus :=
  match field with
  | "status" => (node.text "a string").map fun text => { s with status := text }
  | "message" => (node.text "a string").map fun text => { s with message := text }
  | "reason" => (node.text "a string").map fun text => { s with reason := text }
  | "code" =>
      match node with
      | .scalar _ { integer? := some (.ofNat code), .. } =>
          if code < Nat.pow 2 16 then .ok { s with code := code }
          else .error (node.fault (.unexpectedValue node.found "u16"))
      | other => .error (other.mismatch "u16")
  | _ => .ok s

/-- How a status is read. -/
def ApiStatus.reader {Place : Type} : RecordReader Place ApiStatus where
  name := "struct ErrorResponse"
  fields := ["status", "message", "reason", "code"]
  set := ApiStatus.setField

/-- Read a status, which must have its two required fields. -/
def ApiStatus.read {Place : Type} (node : Node Place) : Except (Violation Place) ApiStatus :=
  match ApiStatus.reader.read true ⟨"", "", "", 0⟩ node with
  | .error v => .error v
  | .ok (status, seen) =>
      if !seen.contains "status" then .error (node.fault (.missingField "status"))
      else if !seen.contains "code" then .error (node.fault (.missingField "code"))
      else
        match RecordReader.surplus? ["status", "message", "reason", "code"] true node with
        | some v => .error v
        | none => .ok status

/-- The error of an answer. -/
def HttpResponse.error (r : HttpResponse) : ClientError :=
  match Json.decode ApiStatus.read r.body with
  | .ok described => .ofStatus described
  | .error _ => .ofStatus ⟨r.statusText, Text.quoted r.body, unparsedReason, r.status⟩

variable {State : Type}

/-- Send a request and read the answer at a type. -/
def exchange {α : Type} (service : Service State)
    (read : Node Json.Span → Except (Violation Json.Span) α) (request : HttpRequest)
    (state : State) : Except ClientError α × State :=
  match service request state with
  | (.error detail, state) => (.error (.transport (.service detail)), state)
  | (.ok response, state) =>
      if response.isError then (.error response.error, state)
      else
        match Json.decode read response.body with
        | .ok value => (.ok value, state)
        | .error cause => (.error (.transport (.unreadable cause)), state)

/-- Ask where the resources of a kind are found. -/
def discover (service : Service State) (apiVersion kind : String) (state : State) :
    Except ClientError Location × State :=
  match targetOf (discoveryPath apiVersion) with
  | .error fault => (.error (.transport (.badDiscoveryTarget fault)), state)
  | .ok target =>
      match exchange service ResourceList.read ⟨.get, target, none⟩ state with
      | (.error cause, state) => (.error cause, state)
      | (.ok list, state) =>
          match list.locate? kind with
          | some location => (.ok location, state)
          | none =>
              let split := splitApiVersion apiVersion
              (.error (.transport (.unknownKind split.1 split.2 kind)), state)

/-- Send a request about resources to an address. -/
def send (service : Service State) (method : Method) (address : String) (body? : Option Json)
    (state : State) : Except ClientError Resource × State :=
  match targetOf address with
  | .error fault => (.error (.transport (.badTarget fault)), state)
  | .ok target => exchange service Resource.read ⟨method, target, body?⟩ state

/-- Discover a kind and go on with its address in a namespace. -/
def withAddress (service : Service State) (defaultNamespace apiVersion kind : String)
    (ns : Option String) (state : State)
    (next : String → State → Except ClientError Resource × State) :
    Except ClientError Resource × State :=
  match discover service apiVersion kind state with
  | (.error cause, state) => (.error cause, state)
  | (.ok location, state) => next (location.path (location.scope defaultNamespace ns)) state

/-- The address of one resource below the address of its kind. -/
def itemAddress (collection name : String) : String := s!"{collection}/{name}"

/-- Create a resource. -/
def httpCreate (service : Service State) (defaultNamespace : String) (r : Resource)
    (state : State) : Except ClientError Resource × State :=
  match r.types? with
  | none => (.error .missingType, state)
  | some types =>
      withAddress service defaultNamespace types.apiVersion types.kind r.namespaceName? state
        fun collection state => send service .post (collection ++ "?") (some r.toJson) state

/-- Read a resource. -/
def httpGet (service : Service State) (defaultNamespace : String) (id : ResourceId)
    (state : State) : Except ClientError Resource × State :=
  withAddress service defaultNamespace id.apiVersion id.kind id.namespaceName? state
    fun collection state =>
      if id.name = "" then (.error (.transport .emptyName), state)
      else send service .get (itemAddress collection id.name) none state

/-- Replace a resource. -/
def httpUpdate (service : Service State) (defaultNamespace : String) (r : Resource)
    (state : State) : Except ClientError Resource × State :=
  match r.metadata.name?, r.types? with
  | none, _ => (.error (.missingName r.kind), state)
  | some _, none => (.error .missingType, state)
  | some name, some types =>
      withAddress service defaultNamespace types.apiVersion types.kind r.namespaceName? state
        fun collection state =>
          if name = "" then (.error (.transport .emptyName), state)
          else send service .put (itemAddress collection name ++ "?") (some r.toJson) state

/-- The cluster behind a service as a client. -/
def httpClient (service : Service State) (defaultNamespace : String) : Client State :=
  fun request state =>
    match request with
    | .create r => httpCreate service defaultNamespace r state
    | .get id => httpGet service defaultNamespace id state
    | .update r => httpUpdate service defaultNamespace r state

end ResourceTemplate.Cluster

import ResourceTemplate.Cluster.Client

/-!
# A scripted cluster

The answers of a scripted cluster are written down beforehand, one for each request.  When none is
left, or when an echo is asked for where nothing was sent, the cluster cannot be reached.
-/

namespace ResourceTemplate.Cluster

/-- An answer written down beforehand. -/
inductive ScriptedReply where
  /-- What was sent. -/
  | echo
  | object (r : Resource)
  | status (status : ApiStatus)
  | missingName (kind : String)
  | missingType
  | unreachable

namespace ScriptedReply

/-- The answer to a request. -/
def answer (reply : ScriptedReply) (request : Request) : Except ClientError Resource :=
  match reply, request with
  | echo, .create r => .ok r
  | echo, .update r => .ok r
  | object r, _ => .ok r
  | .status given, _ => .error (.ofStatus given)
  | missingName kind, _ => .error (.missingName kind)
  | missingType, _ => .error .missingType
  | _, _ => .error (.transport .unreachable)

/-- The client whose answers are a list. -/
def client : Client (List ScriptedReply) := fun request replies =>
  match replies with
  | [] => (.error (.transport .unreachable), [])
  | reply :: rest => (reply.answer request, rest)

end ScriptedReply

end ResourceTemplate.Cluster

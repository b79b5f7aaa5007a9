import ResourceTemplate.Cluster.Http
import ResourceTemplate.Proofs.Cluster.Transcript

/-!
# What a client asks of a service

A request to a cluster becomes at most two requests to the service that it stands behind: one that
asks where the resources of the kind are found, and one that is sent there.  What the second one is
like does not depend on the service; `Request.sending` says it beforehand.

Nothing is assumed of the service.  `HttpCall` lists the exchanges that a request can lead to, each
with what it gives, without mentioning a service.
-/

namespace ResourceTemplate.Cluster

open Document

/-! ## Exchanges with a service -/

/-- A request to a service and what it got. -/
structure HttpExchange where
  request : HttpRequest
  answer : Except String HttpResponse

variable {State Shown : Type}

/-- A service that writes down what is exchanged with it, the latest last. -/
def Service.transcribing (service : Service State) : Service (List HttpExchange × State) :=
  fun request state =>
    let answered := service request state.2
    (answered.1, (state.1 ++ [⟨request, answered.1⟩], answered.2))

/-- What an answer gives when it is read at a type. -/
def readAnswer {α : Type} (read : Node Json.Span → Except (Violation Json.Span) α) :
    Except String HttpResponse → Except ClientError α
  | .error detail => .error (.transport (.service detail))
  | .ok response =>
      if response.isError then .error response.error
      else
        match Json.decode read response.body with
        | .ok value => .ok value
        | .error cause => .error (.transport (.unreadable cause))

theorem exchange_eq {α : Type} (service : Service State)
    (read : Node Json.Span → Except (Violation Json.Span) α) (request : HttpRequest)
    (state : State) :
    exchange service read request state =
      (readAnswer read (service request state).1, (service request state).2) := by
  unfold exchange readAnswer
  rcases service request state with ⟨answer, next⟩
  cases answer with
  | error detail => rfl
  | ok response =>
      dsimp only
      split
      next => rfl
      next => cases Json.decode read response.body <;> rfl

/-- Where an answer says that resources of a kind are found. -/
def located (types : TypeMeta) (answer : Except String HttpResponse) :
    Except ClientError Location :=
  match readAnswer ResourceList.read answer with
  | .error cause => .error cause
  | .ok list =>
      match list.locate? types.kind with
      | some location => .ok location
      | none =>
          let split := splitApiVersion types.apiVersion
          .error (.transport (.unknownKind split.1 split.2 types.kind))

theorem discover_eq (service : Service State) (types : TypeMeta) (state : State) :
    discover service types.apiVersion types.kind state =
      match targetOf (discoveryPath types.apiVersion) with
      | .error fault => (.error (.transport (.badDiscoveryTarget fault)), state)
      | .ok target =>
          (located types (service ⟨.get, target, none⟩ state).1,
            (service ⟨.get, target, none⟩ state).2) := by
  unfold discover located
  cases targetOf (discoveryPath types.apiVersion) with
  | error fault => rfl
  | ok target =>
      dsimp only
      rw [exchange_eq]
      cases readAnswer ResourceList.read (service ⟨.get, target, none⟩ state).1 with
      | error cause => rfl
      | ok list => cases hlocate : list.locate? types.kind <;> simp only [hlocate]

theorem send_eq (service : Service State) (method : Method) (address : String)
    (body? : Option Json) (state : State) :
    send service method address body? state =
      match targetOf address with
      | .error fault => (.error (.transport (.badTarget fault)), state)
      | .ok target =>
          (readAnswer Resource.read (service ⟨method, target, body?⟩ state).1,
            (service ⟨method, target, body?⟩ state).2) := by
  unfold send
  cases targetOf address with
  | error fault => rfl
  | ok target => exact exchange_eq service Resource.read _ state

/-! ## What is sent -/

/-- What is sent for a request once it is known where the resources of its kind are found. -/
structure Sending where
  method : Method
  types : TypeMeta
  namespaceName? : Option String
  /-- The name of the resource, when a single one is asked for. -/
  name? : Option String
  /-- The address, given that of the kind. -/
  address : String → String
  body? : Option Json

/-- What is to be sent for a request, or why nothing can be. -/
def Request.sending : Request → Except ClientError Sending
  | .create r =>
      match r.types? with
      | none => .error .missingType
      | some types => .ok ⟨.post, types, r.namespaceName?, none, (· ++ "?"), some r.toJson⟩
  | .get id =>
      .ok ⟨.get, ⟨id.apiVersion, id.kind⟩, id.namespaceName?, some id.name, (itemAddress · id.name),
        none⟩
  | .update r =>
      match r.metadata.name?, r.types? with
      | none, _ => .error (.missingName r.kind)
      | some _, none => .error .missingType
      | some name, some types =>
          .ok ⟨.put, types, r.namespaceName?, some name, (itemAddress · name ++ "?"),
            some r.toJson⟩

namespace Sending

/-- Where a sending goes, given where the resources of its kind are found. -/
def addressAt (s : Sending) (defaultNamespace : String) (location : Location) : String :=
  s.address (location.path (location.scope defaultNamespace s.namespaceName?))

/-- Discover the kind of a sending and send it. -/
def run (s : Sending) (service : Service State) (defaultNamespace : String) (state : State) :
    Except ClientError Resource × State :=
  withAddress service defaultNamespace s.types.apiVersion s.types.kind s.namespaceName? state
    fun collection state =>
      if s.name? = some "" then (.error (.transport .emptyName), state)
      else send service s.method (s.address collection) s.body? state

theorem run_eq (s : Sending) (service : Service State) (defaultNamespace : String)
    (state : State) :
    s.run service defaultNamespace state =
      match targetOf (discoveryPath s.types.apiVersion) with
      | .error fault => (.error (.transport (.badDiscoveryTarget fault)), state)
      | .ok target =>
          let found := service ⟨.get, target, none⟩ state
          match located s.types found.1 with
          | .error cause => (.error cause, found.2)
          | .ok location =>
              if s.name? = some "" then (.error (.transport .emptyName), found.2)
              else send service s.method (s.addressAt defaultNamespace location) s.body? found.2 := by
  -- The equations of the definition would be slow to generate.
  delta run withAddress
  dsimp only
  rw [discover_eq]
  cases targetOf (discoveryPath s.types.apiVersion) with
  | error fault => rfl
  | ok target =>
      dsimp only
      cases located s.types (service ⟨.get, target, none⟩ state).1 <;> rfl

end Sending

/-- Whatever is asked of a cluster behind a service is done by sending. -/
theorem httpClient_eq (service : Service State) (defaultNamespace : String) (request : Request)
    (state : State) :
    httpClient service defaultNamespace request state =
      match request.sending with
      | .error cause => (.error cause, state)
      | .ok s => s.run service defaultNamespace state := by
  cases request with
  | create r =>
      simp only [httpClient, httpCreate, Request.sending]
      cases r.types? <;> rfl
  | get id => simp [httpClient, httpGet, Request.sending, Sending.run]
  | update r =>
      simp only [httpClient, httpUpdate, Request.sending]
      cases r.metadata.name? with
      | none => rfl
      | some name => cases r.types? <;> simp [Sending.run]

/-! ## The exchanges of a request -/

/-- The exchange by which the kind of a sending is discovered, with what it gives. -/
structure Sending.Discovers (s : Sending) (asked : HttpExchange)
    (location : Except ClientError Location) : Prop where
  request : ∃ target, targetOf (discoveryPath s.types.apiVersion) = .ok target ∧
    asked.request = ⟨.get, target, none⟩
  located : located s.types asked.answer = location

/-- The exchanges with a service that a request can lead to, with what they give. -/
inductive HttpCall (defaultNamespace : String) (request : Request) :
    List HttpExchange → Except ClientError Resource → Prop where
  /-- The object does not say what it is, or a replacement does not say what it is called. -/
  | unsaid (cause : ClientError) (hsending : request.sending = .error cause) :
      HttpCall defaultNamespace request [] (.error cause)
  /-- There is no valid address at which to ask for the kind. -/
  | unasked (s : Sending) (fault : TargetFault) (hsending : request.sending = .ok s)
      (htarget : targetOf (discoveryPath s.types.apiVersion) = .error fault) :
      HttpCall defaultNamespace request [] (.error (.transport (.badDiscoveryTarget fault)))
  /-- The kind was not found. -/
  | undiscovered (s : Sending) (asked : HttpExchange) (cause : ClientError)
      (hsending : request.sending = .ok s) (hasked : s.Discovers asked (.error cause)) :
      HttpCall defaultNamespace request [asked] (.error cause)
  /-- A single resource was asked for by an empty name. -/
  | unnamed (s : Sending) (asked : HttpExchange) (location : Location)
      (hsending : request.sending = .ok s) (hasked : s.Discovers asked (.ok location))
      (hname : s.name? = some "") :
      HttpCall defaultNamespace request [asked] (.error (.transport .emptyName))
  /-- The address of the resource is not valid. -/
  | unaddressed (s : Sending) (asked : HttpExchange) (location : Location) (fault : TargetFault)
      (hsending : request.sending = .ok s) (hasked : s.Discovers asked (.ok location))
      (hname : s.name? ≠ some "")
      (haddress : targetOf (s.addressAt defaultNamespace location) = .error fault) :
      HttpCall defaultNamespace request [asked] (.error (.transport (.badTarget fault)))
  /-- It was sent. -/
  | sent (s : Sending) (asked : HttpExchange) (location : Location) (target : String)
      (answer : Except String HttpResponse) (hsending : request.sending = .ok s)
      (hasked : s.Discovers asked (.ok location)) (hname : s.name? ≠ some "")
      (haddress : targetOf (s.addressAt defaultNamespace location) = .ok target) :
      HttpCall defaultNamespace request [asked, ⟨⟨s.method, target, s.body?⟩, answer⟩]
        (readAnswer Resource.read answer)

theorem httpClient_transcribing (service : Service State) (defaultNamespace : String)
    (request : Request) (before : List HttpExchange) (state : State) :
    ∃ calls,
      (httpClient service.transcribing defaultNamespace request (before, state)).2.1 =
          before ++ calls ∧
        HttpCall defaultNamespace request calls
          (httpClient service.transcribing defaultNamespace request (before, state)).1 := by
  -- The client goes on step by step; each step at which it can stop is a case of its own.
  rw [httpClient_eq]
  cases hsending : request.sending with
  | error cause => exact ⟨[], (List.append_nil before).symm, .unsaid cause hsending⟩
  | ok s =>
      dsimp only
      rw [Sending.run_eq]
      cases htarget : targetOf (discoveryPath s.types.apiVersion) with
      | error fault => exact ⟨[], (List.append_nil before).symm, .unasked s fault hsending htarget⟩
      | ok target =>
          simp only [Service.transcribing]
          rcases service ⟨.get, target, none⟩ state with ⟨found, next⟩
          have hasked : s.Discovers ⟨⟨.get, target, none⟩, found⟩ (located s.types found) :=
            ⟨⟨target, htarget, rfl⟩, rfl⟩
          dsimp only
          cases hlocated : located s.types found with
          | error cause =>
              exact ⟨_, rfl, .undiscovered s _ cause hsending (hlocated ▸ hasked)⟩
          | ok location =>
              rw [hlocated] at hasked
              dsimp only
              split
              next hname => exact ⟨_, rfl, .unnamed s _ location hsending hasked hname⟩
              next hname =>
                rw [send_eq]
                cases haddress : targetOf (s.addressAt defaultNamespace location) with
                | error fault =>
                    exact ⟨_, rfl, .unaddressed s _ location fault hsending hasked hname haddress⟩
                | ok address =>
                    exact ⟨_, List.append_assoc _ _ _,
                      .sent s _ location address _ hsending hasked hname haddress⟩

/-! ## Services that show each other -/

section Views

variable {service : Service State} {shown : Service Shown} {view : State → Shown}

/-- Through a view of its states, one service answers as another does. -/
def Service.Shows (service : Service State) (shown : Service Shown) (view : State → Shown) : Prop :=
  ∀ request state,
    shown request (view state) = ((service request state).1, view (service request state).2)

theorem Service.transcribing_shows (service : Service State) :
    service.transcribing.Shows service Prod.snd :=
  fun _ _ => rfl

theorem Service.transcribing_shows_recording (service : Service State) :
    service.transcribing.Shows service.recording
      fun state => (state.1.map HttpExchange.request, state.2) := by
  intro request state
  simp [Service.transcribing, Service.recording]

theorem Sending.run_view (h : service.Shows shown view) (s : Sending) (defaultNamespace : String)
    (state : State) :
    s.run shown defaultNamespace (view state) =
      ((s.run service defaultNamespace state).1, view (s.run service defaultNamespace state).2) := by
  rw [Sending.run_eq, Sending.run_eq]
  cases targetOf (discoveryPath s.types.apiVersion) with
  | error fault => rfl
  | ok target =>
      dsimp only
      rw [h]
      dsimp only
      cases located s.types (service ⟨.get, target, none⟩ state).1 with
      | error cause => rfl
      | ok location =>
          dsimp only
          split
          next => rfl
          next =>
            rw [send_eq, send_eq]
            cases targetOf (s.addressAt defaultNamespace location) with
            | error fault => rfl
            | ok address =>
                dsimp only
                rw [h]

/-- Clients of services that show each other show each other. -/
theorem httpClient_view (h : service.Shows shown view) (defaultNamespace : String) :
    Cluster.Shows (httpClient service defaultNamespace) (httpClient shown defaultNamespace) view := by
  intro request state
  rw [httpClient_eq, httpClient_eq]
  cases request.sending with
  | error cause => rfl
  | ok s => exact s.run_view h defaultNamespace state

end Views

/-! ## What the exchanges of a request tell -/

/-- The service told where the resources of a kind are found, or gave a resource. -/
def HttpExchange.Succeeded (exchange : HttpExchange) : Prop :=
  (∃ types location, located types exchange.answer = .ok location) ∨
    ∃ r, readAnswer Resource.read exchange.answer = .ok r

/-- The service answered that the resource exists already. -/
def HttpExchange.TellsExists (exchange : HttpExchange) : Prop :=
  ∃ response status, exchange.answer = .ok response ∧ response.isError = true ∧
    Json.decode ApiStatus.read response.body = .ok status ∧
    status.code = ClientError.existsCode ∧ status.reason = ClientError.existsReason

section Answers

variable {α : Type} {read : Node Json.Span → Except (Violation Json.Span) α}

theorem ofStatus_eq_alreadyExists {status : ApiStatus} {message : String}
    (h : ClientError.ofStatus status = .alreadyExists message) :
    status.code = ClientError.existsCode ∧ status.reason = ClientError.existsReason := by
  unfold ClientError.ofStatus at h
  split at h
  next hstatus => exact hstatus
  next => cases h

/-- Only an answer that says so is taken to say that a resource exists. -/
theorem tellsExists_of_readAnswer {exchange : HttpExchange} {message : String}
    (h : readAnswer read exchange.answer = .error (.alreadyExists message)) :
    exchange.TellsExists := by
  cases hanswer : exchange.answer with
  | error detail => simp [hanswer, readAnswer] at h
  | ok response =>
      simp only [hanswer, readAnswer] at h
      split at h
      next herror =>
        have herror' : response.error = .alreadyExists message := Except.error.inj h
        unfold HttpResponse.error at herror'
        split at herror'
        next status hstatus =>
          exact ⟨response, status, hanswer, herror, hstatus, ofStatus_eq_alreadyExists herror'⟩
        next =>
          -- The status made up for a body that describes none has another reason.
          exact absurd (ofStatus_eq_alreadyExists herror').2
            (by simp [unparsedReason, ClientError.existsReason])
      next =>
        cases hbody : Json.decode read response.body <;> simp [hbody] at h

end Answers

theorem tellsExists_of_located {types : TypeMeta} {exchange : HttpExchange} {message : String}
    (h : located types exchange.answer = .error (.alreadyExists message)) :
    exchange.TellsExists := by
  unfold located at h
  split at h
  next cause hread =>
    obtain rfl := Except.error.inj h
    exact tellsExists_of_readAnswer hread
  next list _ => cases hlocate : list.locate? types.kind <;> simp [hlocate] at h

theorem sending_ne_alreadyExists {request : Request} {message : String} :
    request.sending ≠ .error (.alreadyExists message) := by
  cases request with
  | create r => cases htypes : r.types? <;> simp [Request.sending, htypes]
  | get id => simp [Request.sending]
  | update r =>
      cases hname : r.metadata.name? <;> cases htypes : r.types? <;>
        simp [Request.sending, hname, htypes]

namespace HttpCall

variable {defaultNamespace : String} {request : Request} {calls : List HttpExchange}
  {answer : Except ClientError Resource}

/-- A request that is answered by saying that a resource exists ends with an exchange that says so.
-/
theorem told {message : String}
    (h : HttpCall defaultNamespace request calls (.error (.alreadyExists message))) :
    ∃ before last, calls = before ++ [last] ∧ last.TellsExists := by
  generalize hanswer : Except.error (ClientError.alreadyExists message) = answer at h
  cases h with
  | unsaid cause hsending =>
      cases hanswer
      exact absurd hsending sending_ne_alreadyExists
  | undiscovered s asked cause _ hasked =>
      cases hanswer
      exact ⟨[], asked, rfl, tellsExists_of_located hasked.located⟩
  | sent s asked location target answer =>
      exact ⟨[asked], _, rfl, tellsExists_of_readAnswer hanswer.symm⟩
  | unasked | unnamed | unaddressed => cases hanswer

/-- A request that is answered by a resource ends with an exchange in which it was read. -/
theorem read_of_ok {live : Resource} (h : HttpCall defaultNamespace request calls (.ok live)) :
    ∃ s before last, request.sending = .ok s ∧ calls = before ++ [last] ∧
      last.request.method = s.method ∧ readAnswer Resource.read last.answer = .ok live := by
  generalize hanswer : Except.ok live = answer at h
  cases h with
  | sent s asked location target answer hsending =>
      exact ⟨s, [asked], _, hsending, rfl, rfl, rfl⟩
  | unsaid | unasked | undiscovered | unnamed | unaddressed => cases hanswer

/-- An exchange of a request after which something is sent succeeded. -/
theorem succeeded_of_mem_dropLast (h : HttpCall defaultNamespace request calls answer)
    {call : HttpExchange} (hcall : call ∈ calls.dropLast) : call.Succeeded := by
  cases h with
  | sent s asked location target answer _ hasked =>
      obtain rfl : call = asked := by simpa using hcall
      exact .inl ⟨s.types, location, hasked.located⟩
  | unsaid | unasked | undiscovered | unnamed | unaddressed => simp at hcall

/-- A request that is answered by saying that a resource exists fails only by being told so. -/
theorem succeeded_or_told {message : String}
    (h : HttpCall defaultNamespace request calls (.error (.alreadyExists message)))
    {call : HttpExchange} (hcall : call ∈ calls) : call.Succeeded ∨ call.TellsExists := by
  obtain ⟨before, last, rfl, htold⟩ := h.told
  rcases List.mem_append.mp hcall with hcall | hcall
  · exact .inl (h.succeeded_of_mem_dropLast (by simpa using hcall))
  · rw [List.mem_singleton.mp hcall]
    exact .inr htold

/-- Every exchange of a request that is answered by a resource succeeded. -/
theorem succeeded_of_ok {live : Resource} (h : HttpCall defaultNamespace request calls (.ok live))
    {call : HttpExchange} (hcall : call ∈ calls) : call.Succeeded := by
  obtain ⟨-, before, last, -, rfl, -, hread⟩ := h.read_of_ok
  rcases List.mem_append.mp hcall with hcall | hcall
  · exact h.succeeded_of_mem_dropLast (by simpa using hcall)
  · rw [List.mem_singleton.mp hcall]
    exact .inr ⟨live, hread⟩

/-- Something is asked of the service first; then the request itself is sent, or nothing. -/
theorem asked_then_sent (h : HttpCall defaultNamespace request calls answer) :
    ∃ asked last, calls = asked ++ last ∧ (∀ call ∈ asked, call.request.method = .get) ∧
      (last = [] ∨ ∃ s final, request.sending = .ok s ∧ s.name? ≠ some "" ∧ last = [final] ∧
        final.request.method = s.method ∧ final.request.body? = s.body?) := by
  cases h with
  | unsaid | unasked => exact ⟨[], [], rfl, by simp, .inl rfl⟩
  | undiscovered s asked _ _ hasked | unnamed s asked _ _ hasked
  | unaddressed s asked _ _ _ hasked =>
      obtain ⟨target, -, hrequest⟩ := hasked.request
      exact ⟨[asked], [], rfl, by simp [hrequest], .inl rfl⟩
  | sent s asked location target answer hsending hasked hname =>
      obtain ⟨first, -, hrequest⟩ := hasked.request
      exact ⟨[asked], [_], rfl, by simp [hrequest],
        .inr ⟨s, _, hsending, hname, rfl, rfl, rfl⟩⟩

end HttpCall

end ResourceTemplate.Cluster

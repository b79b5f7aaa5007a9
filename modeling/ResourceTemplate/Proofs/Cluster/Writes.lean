import ResourceTemplate.Json.Printer
import ResourceTemplate.Proofs.Cluster.Service
import ResourceTemplate.Proofs.Manifest.Payload

/-!
# What an apply writes to a service

An object is posted at most once.  It is put only after the service has answered that it exists
already, at most once and as the last that is asked.  An object of a known kind is put as it was
posted. One of an unknown kind is put with the version that was read back, and otherwise as it was
posted.  After any other failure nothing is asked anymore.

All of this is read off the exchanges of a single course, each followed through to the service.
-/

namespace ResourceTemplate

open Document

/-! ## Objects that differ in their version -/

/-- One value says what another says, except for the version in the metadata. -/
structure Json.Reversioned (version? : Option String) (given value : Json) : Prop where
  members : ∀ key, key ≠ "metadata" → value.get? key = given.get? key
  metadata : ∀ field, field ≠ "resourceVersion" →
    (value.get? "metadata").bind (·.get? field) = (given.get? "metadata").bind (·.get? field)
  version : (value.get? "metadata").bind (·.get? "resourceVersion") = version?.map Json.string

namespace Resource

theorem get?_toJson_of_ne {r other : Resource} (htypes : r.types? = other.types?)
    (hrest : r.rest = other.rest) {key : String} (hkey : key ≠ "metadata") :
    r.toJson.get? key = other.toJson.get? key := by
  unfold toJson
  simp only [Json.get?, Dict.find?_foldl_insert, Dict.find?_insert, if_neg hkey.symm, htypes, hrest]

theorem get?_metadata_toJson {r : Resource}
    (hrest : Dict.find? (Dict.ofList r.rest) "metadata" = none) :
    r.toJson.get? "metadata" = some r.metadata.toJson := by
  unfold toJson
  simp [Json.get?, Dict.find?_foldl_insert, Dict.find?_insert_self, hrest]

theorem TakenFrom.find?_rest {members : Dict Json} {types : TypeMeta} {r : Resource}
    (h : TakenFrom members types r) (hordered : Dict.Ordered members) :
    Dict.find? (Dict.ofList r.rest) "metadata" = none := by
  rw [h.rest, (((hordered.erase _).erase _).erase _).ofList_eq]
  simp [Dict.find?_erase]

end Resource

namespace Cluster

theorem VersionTaken.reversioned {existing desired sent : Resource}
    (h : VersionTaken existing desired sent)
    (hrest : Dict.find? (Dict.ofList desired.rest) "metadata" = none) :
    Json.Reversioned existing.metadata.resourceVersion? desired.toJson sent.toJson := by
  have hdesired := Resource.get?_metadata_toJson hrest
  have hsent := Resource.get?_metadata_toJson (h.rest ▸ hrest)
  refine ⟨fun key hkey => Resource.get?_toJson_of_ne h.types h.rest hkey, fun field hfield => ?_, ?_⟩
  · rw [hdesired, hsent]
    exact h.fields field hfield
  · rw [hsent]
    exact h.version

variable {State : Type}

/-! ## Courses followed through to a service -/

/-- What every request to a client keeps, replacing an object with it keeps. -/
theorem replace_keeps {client : Client State} {P : State → Prop}
    (hclient : ∀ request state, P state → P (client request state).2) (id : ResourceId)
    (desired : Resource) {state : State} (hstate : P state) :
    P (replace client id desired state).2 := by
  have hnext := hclient (.update desired) state hstate
  unfold replace
  rcases hrun : client (.update desired) state with ⟨answer, next⟩
  rw [hrun] at hnext
  cases answer <;> exact hnext

/-- What every request to a client keeps, creating or replacing an object with it keeps. -/
theorem createOrUpdate_keeps {client : Client State} {P : State → Prop}
    (hclient : ∀ request state, P state → P (client request state).2) (m : Manifest)
    {state : State} (hstate : P state) : P (createOrUpdate client m state).2 := by
  -- Up to three requests are made, each in the state that the one before left.
  have hcreated := hclient (.create m.resource) state hstate
  unfold createOrUpdate
  rcases hrun : client (.create m.resource) state with ⟨answer, afterCreate⟩
  rw [hrun] at hcreated
  cases answer with
  | ok live => exact hcreated
  | error cause =>
      cases cause with
      | alreadyExists message =>
          dsimp only
          split
          next => exact replace_keeps hclient m.id m.resource hcreated
          next =>
            have hread := hclient (.get m.id) afterCreate hcreated
            rcases hrun : client (.get m.id) afterCreate with ⟨read, afterGet⟩
            rw [hrun] at hread
            cases read with
            | ok existing => exact replace_keeps hclient m.id _ hread
            | error cause => exact hread
      | api _ | transport _ | missingType | missingName _ => exact hcreated

/-- The exchanges of a client, each followed through to the service that it stands behind. -/
def FollowedThrough (defaultNamespace : String) (exchanges : List Exchange)
    (calls : List HttpExchange) : Prop :=
  ∃ chunks, List.Forall₂ (fun e chunk => HttpCall defaultNamespace e.request chunk e.answer)
    exchanges chunks ∧ calls = chunks.flatten

theorem FollowedThrough.append {defaultNamespace : String} {exchanges : List Exchange}
    {calls more : List HttpExchange} {e : Exchange}
    (h : FollowedThrough defaultNamespace exchanges calls)
    (hmore : HttpCall defaultNamespace e.request more e.answer) :
    FollowedThrough defaultNamespace (exchanges ++ [e]) (calls ++ more) := by
  obtain ⟨chunks, hchunks, rfl⟩ := h
  exact ⟨chunks ++ [more], List.rel_append hchunks (.cons hmore .nil), by simp⟩

/-- The exchanges with a service that a manifest can lead to, with the result. -/
def HttpCourse (defaultNamespace : String) (m : Manifest) (calls : List HttpExchange)
    (result : Except PhaseError Outcome) : Prop :=
  ∃ exchanges, Course m exchanges result ∧ FollowedThrough defaultNamespace exchanges calls

theorem createOrUpdate_httpCourse (service : Service State) (defaultNamespace : String)
    (m : Manifest) (state : State) :
    HttpCourse defaultNamespace m
      (createOrUpdate (httpClient service.transcribing defaultNamespace) m ([], state)).2.1
      (createOrUpdate (httpClient service.transcribing defaultNamespace) m ([], state)).1 := by
  -- Both the client and the service are transcribed; the two transcripts keep going together.
  let client := httpClient service.transcribing defaultNamespace
  have hkeeps : ∀ request (state : List Exchange × List HttpExchange × State),
      FollowedThrough defaultNamespace state.1 state.2.1 →
        FollowedThrough defaultNamespace (client.transcribing request state).2.1
          (client.transcribing request state).2.2.1 := by
    rintro request ⟨exchanges, calls, state⟩ htogether
    obtain ⟨more, hmore, hcall⟩ :=
      httpClient_transcribing service defaultNamespace request calls state
    simp only [Client.transcribing, client, hmore]
    exact htogether.append hcall
  have htogether := createOrUpdate_keeps hkeeps m
    (show FollowedThrough defaultNamespace (([], [], state) : _ × _ × State).1 [] from
      ⟨[], .nil, rfl⟩)
  obtain ⟨exchanges, hexchanges, hcourse⟩ := createOrUpdate_transcribing client m [] ([], state)
  rw [List.nil_append] at hexchanges
  have hview := createOrUpdate_view (transcribing_shows client) m ([], [], state)
  rw [show createOrUpdate client m ([], state) = _ from hview]
  exact ⟨exchanges, hcourse, hexchanges ▸ htogether⟩

/-! ## Reads and writes -/

/-- Nothing is written. -/
def OnlyReads (calls : List HttpExchange) : Prop := ∀ call ∈ calls, call.request.method = .get

theorem onlyReads_nil : OnlyReads [] := fun _ hcall => absurd hcall List.not_mem_nil

theorem OnlyReads.append {first second : List HttpExchange} (hfirst : OnlyReads first)
    (hsecond : OnlyReads second) : OnlyReads (first ++ second) :=
  fun call hcall => (List.mem_append.mp hcall).elim (hfirst call) (hsecond call)

theorem sending_create {r : Resource} {s : Sending} (h : (Request.create r).sending = .ok s) :
    s.method = .post ∧ s.body? = some r.toJson := by
  cases htypes : r.types? with
  | none => simp [Request.sending, htypes] at h
  | some types =>
      obtain rfl : _ = s := by simpa [Request.sending, htypes] using h
      exact ⟨rfl, rfl⟩

theorem sending_get {id : ResourceId} {s : Sending} (h : (Request.get id).sending = .ok s) :
    s.method = .get := by
  obtain rfl := Except.ok.inj h
  rfl

theorem sending_update {r : Resource} {s : Sending} (h : (Request.update r).sending = .ok s) :
    s.method = .put ∧ s.body? = some r.toJson ∧ s.name? = some r.name := by
  cases hname : r.metadata.name? with
  | none => simp [Request.sending, hname] at h
  | some name =>
      cases htypes : r.types? with
      | none => simp [Request.sending, hname, htypes] at h
      | some types =>
          obtain rfl : _ = s := by simpa [Request.sending, hname, htypes] using h
          exact ⟨rfl, rfl, by simp [Resource.name, hname]⟩

namespace HttpCall

variable {defaultNamespace : String} {calls : List HttpExchange}
  {answer : Except ClientError Resource}

/-- To create a resource, at most one request writes, and it posts the resource. -/
theorem create_writes {r : Resource} (h : HttpCall defaultNamespace (.create r) calls answer) :
    ∃ reads posts, calls = reads ++ posts ∧ OnlyReads reads ∧
      (posts = [] ∨ ∃ post, posts = [post] ∧ post.request.method = .post ∧
        post.request.body? = some r.toJson) := by
  obtain ⟨reads, posts, hcalls, hreads, hposts⟩ := h.asked_then_sent
  refine ⟨reads, posts, hcalls, hreads, hposts.imp_right ?_⟩
  rintro ⟨s, post, hsending, -, hpost, hmethod, hbody⟩
  obtain ⟨hsmethod, hsbody⟩ := sending_create hsending
  exact ⟨post, hpost, hmethod.trans hsmethod, hbody.trans hsbody⟩

/-- To read a resource back, nothing is written. -/
theorem get_onlyReads {id : ResourceId} (h : HttpCall defaultNamespace (.get id) calls answer) :
    OnlyReads calls := by
  obtain ⟨asked, last, rfl, hasked, hlast⟩ := h.asked_then_sent
  refine OnlyReads.append hasked ?_
  rcases hlast with rfl | ⟨s, final, hsending, -, rfl, hmethod, -⟩
  · exact onlyReads_nil
  · exact List.forall_mem_singleton.mpr (hmethod.trans (sending_get hsending))

/-- To replace a resource, at most one request writes, and it puts the resource, which has a name.
-/
theorem update_writes {r : Resource} (h : HttpCall defaultNamespace (.update r) calls answer) :
    ∃ reads puts, calls = reads ++ puts ∧ OnlyReads reads ∧
      (puts = [] ∨ ∃ put, puts = [put] ∧ put.request.method = .put ∧
        put.request.body? = some r.toJson ∧ r.name ≠ "") := by
  obtain ⟨reads, puts, hcalls, hreads, hputs⟩ := h.asked_then_sent
  refine ⟨reads, puts, hcalls, hreads, hputs.imp_right ?_⟩
  rintro ⟨s, put, hsending, hnamed, hput, hmethod, hbody⟩
  obtain ⟨hsmethod, hsbody, hsname⟩ := sending_update hsending
  refine ⟨put, hput, hmethod.trans hsmethod, hbody.trans hsbody, fun hname => ?_⟩
  exact hnamed (hsname.trans (congrArg some hname))

end HttpCall

/-- A request that replaces an object has its reasons in what has been exchanged before. -/
structure Replaces (defaultNamespace : String) (m : Manifest) (before : List HttpExchange)
    (put : HttpExchange) : Prop where
  named : m.resource.name ≠ ""
  /-- The attempt to create the object ended by being told that it exists. -/
  told : ∃ created told rest message, before = created ++ told :: rest ∧ told.TellsExists ∧
    HttpCall defaultNamespace (.create m.resource) (created ++ [told])
      (.error (.alreadyExists message))
  /-- What is known is put as it was posted. -/
  typed : m.typed = true → put.request.body? = some m.resource.toJson
  /-- What is not known is put as it was posted, but with the version that was read. -/
  untyped : m.typed = false → ∃ read ∈ before, ∃ existing body, read.request.method = .get ∧
    readAnswer Resource.read read.answer = .ok existing ∧ put.request.body? = some body ∧
    Json.Reversioned existing.metadata.resourceVersion? m.resource.toJson body

theorem VersionTaken.name {existing desired sent : Resource}
    (h : VersionTaken existing desired sent) : sent.name = desired.name := by
  have hfields : sent.metadata.name? = desired.metadata.name? := by
    unfold Metadata.name? Metadata.text?
    rw [h.fields "name" (by decide)]
  unfold Resource.name
  rw [hfields]

/-- What is written for an object: it is posted at most once, and at most once something is put in
its place, which is then the last of the exchanges and has its reasons in those before. -/
inductive Written (defaultNamespace : String) (m : Manifest) : List HttpExchange → Prop where
  | intro {first posts more puts : List HttpExchange} (hfirst : OnlyReads first)
      (hposts : posts = [] ∨ ∃ post, posts = [post] ∧ post.request.method = .post ∧
        post.request.body? = some m.resource.toJson)
      (hmore : OnlyReads more)
      (hputs : puts = [] ∨ ∃ put, puts = [put] ∧ put.request.method = .put ∧
        Replaces defaultNamespace m (first ++ posts ++ more) put) :
      Written defaultNamespace m (first ++ posts ++ more ++ puts)

section

variable {defaultNamespace : String} {m : Manifest}

theorem OnlyReads.countP_eq_zero {calls : List HttpExchange} (h : OnlyReads calls) {method : Method}
    (hmethod : method ≠ .get) : calls.countP (·.request.method = method) = 0 :=
  List.countP_eq_zero.mpr fun call hcall => by
    rw [h call hcall]
    simpa using hmethod.symm

/-- At most one exchange posts and at most one puts. -/
theorem Written.countP_le_one {calls : List HttpExchange} (h : Written defaultNamespace m calls)
    {method : Method} (hmethod : method ≠ .get) :
    calls.countP (·.request.method = method) ≤ 1 := by
  cases h with
  | intro hfirst hposts hmore hputs =>
      simp only [List.countP_append, hfirst.countP_eq_zero hmethod, hmore.countP_eq_zero hmethod,
        Nat.zero_add, Nat.add_zero]
      rcases hposts with rfl | ⟨post, rfl, hpost, -⟩ <;> rcases hputs with rfl | ⟨put, rfl, hput, -⟩
      · simp
      · exact (Nat.zero_add _).trans_le List.countP_le_length
      · exact List.countP_le_length
      · cases method <;> simp [hpost, hput] at hmethod ⊢

/-- An object is written at most once when only reads follow the attempt to create it. -/
theorem written_of_create {calls : List HttpExchange} {answer : Except ClientError Resource}
    (h : HttpCall defaultNamespace (.create m.resource) calls answer) {more : List HttpExchange}
    (hmore : OnlyReads more) : Written defaultNamespace m (calls ++ more) := by
  obtain ⟨first, posts, rfl, hfirst, hposts⟩ := h.create_writes
  have hwritten : Written defaultNamespace m (first ++ posts ++ more ++ []) :=
    .intro hfirst hposts hmore (.inl rfl)
  rwa [List.append_nil] at hwritten

/-- What is put in place of an object that was told to exist is written once. -/
theorem written_of_replace {created between replaced : List HttpExchange} {message : String}
    {sent : Resource} {answer : Except ClientError Resource}
    (hcreated : HttpCall defaultNamespace (.create m.resource) created
      (.error (.alreadyExists message)))
    (hbetween : OnlyReads between)
    (hreplaced : HttpCall defaultNamespace (.update sent) replaced answer)
    (hname : sent.name = m.resource.name)
    (htyped : m.typed = true → sent = m.resource)
    (huntyped : m.typed = false → ∃ read ∈ between, ∃ existing,
      readAnswer Resource.read read.answer = .ok existing ∧
      Json.Reversioned existing.metadata.resourceVersion? m.resource.toJson sent.toJson) :
    Written defaultNamespace m (created ++ between ++ replaced) := by
  obtain ⟨more, puts, rfl, hmore, hputs⟩ := hreplaced.update_writes
  obtain ⟨before, told, hbefore, htold⟩ := hcreated.told
  obtain ⟨first, posts, rfl, hfirst, hposts⟩ := hcreated.create_writes
  have hwritten : Written defaultNamespace m (first ++ posts ++ (between ++ more) ++ puts) := by
    refine .intro hfirst hposts (hbetween.append hmore) (hputs.imp_right ?_)
    -- What was told at the end of the attempt to create stands before everything read since.
    rintro ⟨put, hput, hmethod, hbody, hsentName⟩
    refine ⟨put, hput, hmethod, hname ▸ hsentName,
      ⟨before, told, between ++ more, message, ?_, htold, hbefore ▸ hcreated⟩,
      fun h => htyped h ▸ hbody, fun h => ?_⟩
    · rw [hbefore, List.append_assoc, List.singleton_append]
    · obtain ⟨read, hread, existing, hexisting, hreversioned⟩ := huntyped h
      exact ⟨read, by simp [hread], existing, _, hbetween read hread, hexisting, hbody,
        hreversioned⟩
  simpa only [List.append_assoc] using hwritten

end

theorem mem_or_mem_dropLast {α : Type} {first second : List α} {a : α}
    (h : a ∈ (first ++ second).dropLast) : a ∈ first ∨ a ∈ second.dropLast := by
  rw [List.dropLast_append] at h
  split at h
  · exact .inl (List.dropLast_subset first h)
  · exact List.mem_append.mp h

namespace HttpCourse

variable {defaultNamespace : String} {m : Manifest} {calls : List HttpExchange}
  {result : Except PhaseError Outcome}

theorem written (h : HttpCourse defaultNamespace m calls result)
    (hrest : Dict.find? (Dict.ofList m.resource.rest) "metadata" = none) :
    Written defaultNamespace m calls := by
  obtain ⟨exchanges, hcourse, chunks, hchunks, rfl⟩ := h
  cases hcourse with
  | created live | refused cause hcause =>
      obtain _ | ⟨hcreated, _ | _⟩ := hchunks
      exact written_of_create hcreated onlyReads_nil
  | typed message answer htyped =>
      obtain _ | ⟨hcreated, _ | ⟨hreplaced, _ | _⟩⟩ := hchunks
      have hwritten := written_of_replace hcreated onlyReads_nil hreplaced rfl (fun _ => rfl)
        fun huntyped => absurd (htyped.symm.trans huntyped) Bool.noConfusion
      simpa using hwritten
  | unread message cause huntyped =>
      obtain _ | ⟨hcreated, _ | ⟨hreadback, _ | _⟩⟩ := hchunks
      simpa using written_of_create hcreated hreadback.get_onlyReads
  | untyped message existing sent answer huntyped hsent =>
      obtain _ | ⟨hcreated, _ | ⟨hreadback, _ | ⟨hreplaced, _ | _⟩⟩⟩ := hchunks
      obtain ⟨-, asked, read, -, rfl, -, hread⟩ := hreadback.read_of_ok
      have hwritten := written_of_replace hcreated hreadback.get_onlyReads hreplaced hsent.name
        (fun htyped => absurd (htyped.symm.trans huntyped) Bool.noConfusion)
        fun _ => ⟨read, by simp, existing, hread, hsent.reversioned hrest⟩
      simpa using hwritten

/-- An exchange after which something is asked succeeded, or told that the object exists. -/
theorem succeeded_or_told (h : HttpCourse defaultNamespace m calls result) {call : HttpExchange}
    (hcall : call ∈ calls.dropLast) : call.Succeeded ∨ call.TellsExists := by
  obtain ⟨exchanges, hcourse, chunks, hchunks, rfl⟩ := h
  -- All requests of a course but the last one are followed by another, so all of their exchanges
  -- count.
  cases hcourse with
  | created live | refused cause hcause =>
      obtain _ | ⟨hcreated, _ | _⟩ := hchunks
      exact .inl (hcreated.succeeded_of_mem_dropLast (by simpa using hcall))
  | typed message answer htyped =>
      obtain _ | ⟨hcreated, _ | ⟨hreplaced, _ | _⟩⟩ := hchunks
      rcases mem_or_mem_dropLast (by simpa using hcall) with hcall | hcall
      · exact hcreated.succeeded_or_told hcall
      · exact .inl (hreplaced.succeeded_of_mem_dropLast hcall)
  | unread message cause huntyped =>
      obtain _ | ⟨hcreated, _ | ⟨hreadback, _ | _⟩⟩ := hchunks
      rcases mem_or_mem_dropLast (by simpa using hcall) with hcall | hcall
      · exact hcreated.succeeded_or_told hcall
      · exact .inl (hreadback.succeeded_of_mem_dropLast hcall)
  | untyped message existing sent answer huntyped hsent =>
      obtain _ | ⟨hcreated, _ | ⟨hreadback, _ | ⟨hreplaced, _ | _⟩⟩⟩ := hchunks
      rcases mem_or_mem_dropLast (by simpa using hcall) with hcall | hcall
      · exact hcreated.succeeded_or_told hcall
      · rcases mem_or_mem_dropLast hcall with hcall | hcall
        · exact .inl (hreadback.succeeded_of_ok hcall)
        · exact .inl (hreplaced.succeeded_of_mem_dropLast hcall)

end HttpCourse

/-- Whatever a service answers, applying a decoded object exchanges with it a course of requests in
which the object is posted at most once, is put at most once and last, and only after the service
has told that it exists; after a failure of any other kind nothing is asked.  Writing the exchanges
down changes nothing. -/
theorem createOrUpdate_writes_once {scheme : Scheme} {raw : Json} {m : Manifest}
    (hraw : raw.Canonical) (hdecode : scheme.decode raw = .ok (some m)) (service : Service State)
    (defaultNamespace : String) (state : State) :
    ∃ calls,
      createOrUpdate (httpClient service.transcribing defaultNamespace) m ([], state) =
          ((createOrUpdate (httpClient service defaultNamespace) m state).1, calls,
            (createOrUpdate (httpClient service defaultNamespace) m state).2) ∧
        (createOrUpdate (httpClient service.recording defaultNamespace) m ([], state)).2.1 =
          calls.map HttpExchange.request ∧
        HttpCourse defaultNamespace m calls
          (createOrUpdate (httpClient service defaultNamespace) m state).1 ∧
        Written defaultNamespace m calls ∧
        (∀ method, method ≠ .get → calls.countP (·.request.method = method) ≤ 1) ∧
        ∀ call ∈ calls.dropLast, call.Succeeded ∨ call.TellsExists := by
  obtain ⟨members, types, rfl, -, htaken⟩ := Scheme.takenFrom_of_decode hraw hdecode
  have hcourse := createOrUpdate_httpCourse service defaultNamespace m state
  -- Both the plain run and the recorded one are views of the transcribed one.
  have hplain := createOrUpdate_view (httpClient_view service.transcribing_shows defaultNamespace)
    m ([], state)
  have hrecorded := createOrUpdate_view
    (httpClient_view service.transcribing_shows_recording defaultNamespace) m ([], state)
  have hresult : (createOrUpdate (httpClient service defaultNamespace) m state).1 =
      (createOrUpdate (httpClient service.transcribing defaultNamespace) m ([], state)).1 :=
    congrArg Prod.fst hplain
  have hwritten := hcourse.written (htaken.find?_rest hraw.1)
  refine ⟨_, ?_, congrArg (fun run => run.2.1) hrecorded, hresult ▸ hcourse, hwritten,
    fun method hmethod => hwritten.countP_le_one hmethod, fun call => hcourse.succeeded_or_told⟩
  rw [show createOrUpdate (httpClient service defaultNamespace) m state = _ from hplain]

/-- An object of an unknown kind, with more metadata behind its name. -/
def gear (more : Dict Json) : Json :=
  .object [("apiVersion", .string "example.com/v1"), ("kind", .string "Widget"),
    ("metadata", .object (("name", .string "gear") :: more))]

/-- The resources of its API version. -/
def widgetResources : Json :=
  .object [("groupVersion", .string "example.com/v1"),
    ("resources", .array [.object [("kind", .string "Widget"), ("name", .string "widgets"),
      ("namespaced", .bool true), ("singularName", .string "widget"), ("verbs", .array [])]])]

/-- The status of a resource that exists already. -/
def existsStatus : Json :=
  .object [("code", .number (.natural 409)), ("message", .string "gear exists"),
    ("reason", .string "AlreadyExists"), ("status", .string "Failure")]

/-- The answers of a service that holds the object and lets it be replaced. -/
def replacingAnswers : List HttpResponse :=
  [⟨200, widgetResources.compact⟩, ⟨409, existsStatus.compact⟩,
    ⟨200, widgetResources.compact⟩, ⟨200, (gear [("resourceVersion", .string "7")]).compact⟩,
    ⟨200, widgetResources.compact⟩, ⟨200, (gear [("resourceVersion", .string "8")]).compact⟩]

theorem createOrUpdate_writes_once_gear :
    (gear []).Canonical ∧ ∃ m, Scheme.builtin.decode (gear []) = .ok (some m) ∧
      ∃ calls,
        (createOrUpdate (httpClient scriptedService.transcribing "default") m
          ([], replacingAnswers)).2.1 = calls ∧
        calls.map (·.request.method) = [.get, .post, .get, .get, .get, .put] ∧
        Written "default" m calls ∧
        ∀ call ∈ calls.dropLast, call.Succeeded ∨ call.TellsExists := by
  have hraw : (gear []).Canonical := by
    simp only [gear, Json.Canonical, Json.CanonicalMembers, Dict.Ordered]
    decide
  obtain ⟨m, hdecode, hmethods⟩ : ∃ m, Scheme.builtin.decode (gear []) = .ok (some m) ∧
      (createOrUpdate (httpClient scriptedService.transcribing "default") m
        ([], replacingAnswers)).2.1.map (·.request.method) =
          [.get, .post, .get, .get, .get, .put] :=
    ⟨_, rfl, by decide +kernel⟩
  obtain ⟨calls, hrun, -, -, hwritten, -, hsucceeded⟩ :=
    createOrUpdate_writes_once hraw hdecode scriptedService "default" replacingAnswers
  have hcalls : (createOrUpdate (httpClient scriptedService.transcribing "default") m
      ([], replacingAnswers)).2.1 = calls := congrArg (fun run => run.2.1) hrun
  exact ⟨hraw, m, hdecode, calls, hcalls, hcalls ▸ hmethods, hwritten, hsucceeded⟩

end Cluster

end ResourceTemplate

import ResourceTemplate.Cluster.Apply
import ResourceTemplate.Proofs.Metadata

/-!
# What an apply asks of a cluster

Nothing is assumed of the client here: it may keep any state and answer as it likes, so its answers
may depend in any way on the requests made before.  `Course` lists the exchanges that a single
manifest can lead to, each course with the result that it gives, and `Transcript` puts the courses
of a batch one after the other, up to and including the first that fails.  Neither mentions a
client.

The main statement is that an apply exchanges with its client exactly such a transcript, and that
writing the exchanges down does not change what the apply does.
-/

namespace ResourceTemplate

/-- The manifests among rendered objects, in order. -/
def manifests (objects : List RenderedObject) : List Manifest :=
  objects.filterMap (·.manifest?)

@[simp] theorem manifests_nil : manifests [] = [] := rfl

theorem manifests_cons_none {o : RenderedObject} (rest : List RenderedObject)
    (h : o.manifest? = none) : manifests (o :: rest) = manifests rest := by
  simp [manifests, h]

theorem manifests_cons_some {o : RenderedObject} {m : Manifest} (rest : List RenderedObject)
    (h : o.manifest? = some m) : manifests (o :: rest) = m :: manifests rest := by
  simp [manifests, h]

theorem manifests_append (first second : List RenderedObject) :
    manifests (first ++ second) = manifests first ++ manifests second := by
  simp [manifests]

end ResourceTemplate

namespace ResourceTemplate.Cluster

variable {State : Type}

/-! ## An apply, object by object -/

theorem apply_cons_none (client : Client State) {object : RenderedObject}
    (rest : List RenderedObject) (state : State) (h : object.manifest? = none) :
    apply client (object :: rest) state = apply client rest state := by
  rw [apply, h]

theorem apply_cons_ok {client : Client State} {object : RenderedObject} {m : Manifest}
    {first : Outcome} {state next : State} (rest : List RenderedObject)
    (h : object.manifest? = some m) (hfirst : createOrUpdate client m state = (.ok first, next)) :
    apply client (object :: rest) state =
      ((apply client rest next).1.map (first :: ·), (apply client rest next).2) := by
  simp only [apply, h, hfirst]

theorem apply_cons_error {client : Client State} {object : RenderedObject} {m : Manifest}
    {phase : Phase} {cause : ClientError} {state next : State} (rest : List RenderedObject)
    (h : object.manifest? = some m)
    (hfailed : createOrUpdate client m state = (.error (phase, cause), next)) :
    apply client (object :: rest) state =
      (.error ⟨m.resource.kind, m.version, phase, m.id, cause⟩, next) := by
  simp only [apply, h, hfailed]

/-! ## Exchanges and courses -/

/-- A request and the answer that it got. -/
structure Exchange where
  request : Request
  answer : Except ClientError Resource

/-- A client that writes down what is exchanged with it, the latest last. -/
def Client.transcribing (client : Client State) : Client (List Exchange × State) :=
  fun request state =>
    let answered := client request state.2
    (answered.1, (state.1 ++ [⟨request, answered.1⟩], answered.2))

/-- What is sent is what is desired, except that it has the version of what exists. -/
structure VersionTaken (existing desired sent : Resource) : Prop where
  types : sent.types? = desired.types?
  rest : sent.rest = desired.rest
  version : sent.metadata.fields.find? "resourceVersion" =
    existing.metadata.resourceVersion?.map Json.string
  fields : ∀ field, field ≠ "resourceVersion" →
    sent.metadata.fields.find? field = desired.metadata.fields.find? field

@[simp] theorem outcome_action (id : ResourceId) (action : Action) (live : Resource) :
    (outcome id action live).action = action := by
  unfold outcome
  cases live.namespaceName? <;> rfl

/-- The result that the answer to an update gives. -/
def updateResult (id : ResourceId) : Except ClientError Resource → Except PhaseError Outcome
  | .ok live => .ok (outcome id .updated live)
  | .error cause => .error (.update, cause)

/-- The exchanges that a manifest can lead to, with the result of each course. -/
inductive Course (m : Manifest) : List Exchange → Except PhaseError Outcome → Prop where
  /-- The object did not exist. -/
  | created (live : Resource) :
      Course m [⟨.create m.resource, .ok live⟩] (.ok (outcome m.id .created live))
  /-- It could not be created for another reason than that it exists. -/
  | refused (cause : ClientError) (hcause : ∀ message, cause ≠ .alreadyExists message) :
      Course m [⟨.create m.resource, .error cause⟩] (.error (.create, cause))
  /-- It exists, and its kind is known. -/
  | typed (message : String) (answer : Except ClientError Resource) (htyped : m.typed = true) :
      Course m [⟨.create m.resource, .error (.alreadyExists message)⟩, ⟨.update m.resource, answer⟩]
        (updateResult m.id answer)
  /-- It exists but cannot be read back. -/
  | unread (message : String) (cause : ClientError) (huntyped : m.typed = false) :
      Course m [⟨.create m.resource, .error (.alreadyExists message)⟩, ⟨.get m.id, .error cause⟩]
        (.error (.get, cause))
  /-- It exists and was read back. -/
  | untyped (message : String) (existing sent : Resource) (answer : Except ClientError Resource)
      (huntyped : m.typed = false) (hsent : VersionTaken existing m.resource sent) :
      Course m [⟨.create m.resource, .error (.alreadyExists message)⟩, ⟨.get m.id, .ok existing⟩,
        ⟨.update sent, answer⟩] (updateResult m.id answer)

/-- The exchanges that manifests lead to, with the result: one course for each, up to and including
the first that fails. -/
inductive Transcript : List Manifest → List Exchange → Except ApplyError (List Outcome) → Prop where
  | done : Transcript [] [] (.ok [])
  | next {m : Manifest} {rest : List Manifest} {calls later : List Exchange} {first : Outcome}
      {result : Except ApplyError (List Outcome)} (course : Course m calls (.ok first))
      (others : Transcript rest later result) :
      Transcript (m :: rest) (calls ++ later) (result.map (first :: ·))
  | failed {m : Manifest} {rest : List Manifest} {calls : List Exchange} {phase : Phase}
      {cause : ClientError} (course : Course m calls (.error (phase, cause))) :
      Transcript (m :: rest) calls (.error ⟨m.resource.kind, m.version, phase, m.id, cause⟩)

theorem versionTaken_replacement (existing desired : Resource) :
    VersionTaken existing desired (replacement desired existing) where
  types := rfl
  rest := rfl
  version := Metadata.find?_setText_self _ _ _
  fields := fun _ hfield => Metadata.find?_setText_of_ne _ _ (Ne.symm hfield)

/-! ## Clients that show each other

One client shows another when a view of its states turns its answers into those of the other.  An
apply then does the same with both. -/

section Views

variable {Shown : Type} {client : Client State} {shown : Client Shown} {view : State → Shown}

/-- Through the view, one client answers as the other does. -/
def Shows (client : Client State) (shown : Client Shown) (view : State → Shown) : Prop :=
  ∀ request state,
    shown request (view state) = ((client request state).1, view (client request state).2)

theorem replace_view (h : Shows client shown view) (id : ResourceId) (desired : Resource)
    (state : State) :
    replace shown id desired (view state) =
      ((replace client id desired state).1, view (replace client id desired state).2) := by
  unfold replace
  rw [h]
  rcases client (.update desired) state with ⟨answer, next⟩
  cases answer <;> rfl

theorem createOrUpdate_view (h : Shows client shown view) (m : Manifest) (state : State) :
    createOrUpdate shown m (view state) =
      ((createOrUpdate client m state).1, view (createOrUpdate client m state).2) := by
  unfold createOrUpdate
  rw [h]
  rcases client (.create m.resource) state with ⟨answer, afterCreate⟩
  cases answer with
  | ok live => rfl
  | error cause =>
      cases cause with
      | alreadyExists message =>
          cases htyped : m.typed with
          | true => simpa [htyped] using replace_view h m.id m.resource afterCreate
          | false =>
              simp only [Bool.false_eq_true, if_false]
              rw [h]
              rcases client (.get m.id) afterCreate with ⟨read, afterGet⟩
              cases read with
              | ok existing => exact replace_view h m.id _ afterGet
              | error cause => rfl
      | api _ | transport _ | missingType | missingName _ => rfl

theorem apply_view (h : Shows client shown view) (objects : List RenderedObject) (state : State) :
    apply shown objects (view state) =
      ((apply client objects state).1, view (apply client objects state).2) := by
  induction objects generalizing state with
  | nil => rfl
  | cons object rest ih =>
      cases hmanifest : object.manifest? with
      | none =>
          rw [apply_cons_none shown rest _ hmanifest, apply_cons_none client rest _ hmanifest]
          exact ih state
      | some m =>
          have hview := createOrUpdate_view h m state
          rcases hrun : createOrUpdate client m state with ⟨result, next⟩
          rw [hrun] at hview
          cases result with
          | ok first =>
              rw [apply_cons_ok rest hmanifest hview, apply_cons_ok rest hmanifest hrun, ih next]
          | error failure =>
              obtain ⟨phase, cause⟩ := failure
              rw [apply_cons_error rest hmanifest hview, apply_cons_error rest hmanifest hrun]

end Views

/-- Without its transcript, a transcribing client is the client itself. -/
theorem transcribing_shows (client : Client State) : Shows client.transcribing client Prod.snd :=
  fun _ _ => rfl

/-- The requests of the transcript are those that a recording client keeps. -/
theorem transcribing_shows_recording (client : Client State) :
    Shows client.transcribing client.recording
      fun state => (state.1.map Exchange.request, state.2) := by
  intro request state
  simp [Client.transcribing, Client.recording]

/-! ## The transcript of an apply -/

theorem replace_transcribing (client : Client State) (id : ResourceId) (desired : Resource)
    (before : List Exchange) (state : State) :
    ∃ answer, (replace client.transcribing id desired (before, state)).2.1 =
        before ++ [⟨.update desired, answer⟩] ∧
      (replace client.transcribing id desired (before, state)).1 = updateResult id answer := by
  refine ⟨(client (.update desired) state).1, ?_⟩
  unfold replace Client.transcribing
  rcases client (.update desired) state with ⟨answer, next⟩
  cases answer <;> exact ⟨rfl, rfl⟩

theorem createOrUpdate_transcribing (client : Client State) (m : Manifest)
    (before : List Exchange) (state : State) :
    ∃ calls, (createOrUpdate client.transcribing m (before, state)).2.1 = before ++ calls ∧
      Course m calls (createOrUpdate client.transcribing m (before, state)).1 := by
  -- The course is chosen by the answer to the create, then by the kind, then by the answer to the
  -- read.
  unfold createOrUpdate
  simp only [Client.transcribing]
  rcases client (.create m.resource) state with ⟨answer, afterCreate⟩
  cases answer with
  | ok live => exact ⟨_, rfl, .created live⟩
  | error cause =>
      cases cause with
      | alreadyExists message =>
          cases htyped : m.typed with
          | true =>
              obtain ⟨answer, hcalls, hresult⟩ := replace_transcribing client m.id m.resource
                (before ++ [⟨.create m.resource, .error (.alreadyExists message)⟩]) afterCreate
              simp only [if_true]
              refine ⟨_, hcalls.trans (List.append_assoc _ _ _), ?_⟩
              rw [show _ = updateResult m.id answer from hresult]
              exact .typed message answer htyped
          | false =>
              simp only [Bool.false_eq_true, if_false]
              rcases client (.get m.id) afterCreate with ⟨read, afterGet⟩
              cases read with
              | error cause => exact ⟨_, List.append_assoc _ _ _, .unread message cause htyped⟩
              | ok existing =>
                  obtain ⟨answer, hcalls, hresult⟩ :=
                    replace_transcribing client m.id (replacement m.resource existing)
                      (before ++ [⟨.create m.resource, .error (.alreadyExists message)⟩] ++
                        [⟨.get m.id, .ok existing⟩]) afterGet
                  refine ⟨_, hcalls.trans (by simp only [List.append_assoc]; rfl), ?_⟩
                  rw [show _ = updateResult m.id answer from hresult]
                  exact .untyped message existing _ answer htyped
                    (versionTaken_replacement existing m.resource)
      | api _ | transport _ | missingType | missingName _ =>
          exact ⟨_, rfl, .refused _ (by simp)⟩

theorem apply_transcribing (client : Client State) (objects : List RenderedObject)
    (before : List Exchange) (state : State) :
    ∃ calls, (apply client.transcribing objects (before, state)).2.1 = before ++ calls ∧
      Transcript (manifests objects) calls
        (apply client.transcribing objects (before, state)).1 := by
  -- What was written down before differs from object to object, so it is not fixed in the
  -- induction.
  induction objects generalizing before state with
  | nil => exact ⟨[], by simp [apply], .done⟩
  | cons object rest ih =>
      cases hmanifest : object.manifest? with
      | none =>
          rw [manifests_cons_none rest hmanifest, apply_cons_none _ rest _ hmanifest]
          exact ih before state
      | some m =>
          rw [manifests_cons_some rest hmanifest]
          obtain ⟨calls, hcalls, hcourse⟩ := createOrUpdate_transcribing client m before state
          rcases hrun : createOrUpdate client.transcribing m (before, state)
            with ⟨result, written, next⟩
          rw [hrun] at hcalls hcourse
          cases result with
          | error failure =>
              obtain ⟨phase, cause⟩ := failure
              rw [apply_cons_error rest hmanifest hrun]
              exact ⟨calls, hcalls, .failed hcourse⟩
          | ok first =>
              obtain ⟨later, hlater, hothers⟩ := ih written next
              rw [apply_cons_ok rest hmanifest hrun]
              refine ⟨calls ++ later, ?_, .next hcourse hothers⟩
              rw [hlater, show written = before ++ calls from hcalls, List.append_assoc]

/-- Whatever the client answers, an apply exchanges with it one course for each manifest, up to and
including the first that fails, and gives the result of these courses.  Writing the exchanges down
changes neither the result nor what becomes of the client. -/
theorem apply_follows_transcript (client : Client State) (objects : List RenderedObject)
    (state : State) :
    ∃ calls : List Exchange,
      apply client.transcribing objects ([], state) =
          ((apply client objects state).1, calls, (apply client objects state).2) ∧
        (apply client.recording objects ([], state)).2.1 = calls.map Exchange.request ∧
        Transcript (manifests objects) calls (apply client objects state).1 := by
  obtain ⟨calls, hcalls, htranscript⟩ := apply_transcribing client objects [] state
  rw [List.nil_append] at hcalls
  -- Both the plain apply and the recorded one are views of the transcribed one.
  have hplain := apply_view (transcribing_shows client) objects ([], state)
  have hrecorded := apply_view (transcribing_shows_recording client) objects ([], state)
  refine ⟨calls, ?_, ?_, ?_⟩
  · rw [← hcalls, hplain]
  · rw [← hcalls]
    exact congrArg (fun run => run.2.1) hrecorded
  · rw [show apply client objects state = _ from hplain]
    exact htranscript

end ResourceTemplate.Cluster

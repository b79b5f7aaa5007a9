import ResourceTemplate.Proofs.Cluster.Transcript

/-!
# Appliers

An applier is an apply that stops before each of its requests, so that its requests can be answered
at any later time.  Left alone with any client it makes the requests of `apply` and comes to the
result of `apply`, which is `apply_alone`.

What an applier becomes depends on its exchanges only, and not on where the answers come from.  A
replaying client, whose answers are a list, can therefore stand in for whatever gave them.
-/

namespace ResourceTemplate.Cluster

/-- How far an applier has got with a manifest. -/
inductive Stage where
  | creating
  | reading
  | replacing (sent : Resource)

/-- An applier before its next request, or after its last. -/
inductive Applier where
  | working (m : Manifest) (stage : Stage) (rest : List RenderedObject) (reported : List Outcome)
  | finished (result : Except ApplyError (List Outcome))

namespace Applier

/-- An applier that has reported some outcomes and goes on to the next manifest. -/
def proceed (reported : List Outcome) : List RenderedObject → Applier
  | [] => finished (.ok reported)
  | object :: rest =>
      match object.manifest? with
      | none => proceed reported rest
      | some m => working m .creating rest reported

/-- An applier that has failed. -/
def failed (m : Manifest) (phase : Phase) (cause : ClientError) : Applier :=
  finished (.error ⟨m.resource.kind, m.version, phase, m.id, cause⟩)

/-- The request that an applier makes next. -/
def request? : Applier → Option Request
  | working m .creating _ _ => some (.create m.resource)
  | working m .reading _ _ => some (.get m.id)
  | working _ (.replacing sent) _ _ => some (.update sent)
  | finished _ => none

/-- What an applier becomes when its request is answered. -/
def resume (answer : Except ClientError Resource) : Applier → Applier
  | finished result => finished result
  | working m .creating rest reported =>
      match answer with
      | .ok live => proceed (reported ++ [outcome m.id .created live]) rest
      | .error (.alreadyExists _) =>
          working m (if m.typed then .replacing m.resource else .reading) rest reported
      | .error cause => failed m .create cause
  | working m .reading rest reported =>
      match answer with
      | .ok existing => working m (.replacing (replacement m.resource existing)) rest reported
      | .error cause => failed m .get cause
  | working m (.replacing _) rest reported =>
      match answer with
      | .ok live => proceed (reported ++ [outcome m.id .updated live]) rest
      | .error cause => failed m .update cause

/-- The outcomes that an applier reports; after a failure it reports none. -/
def outcomes : Applier → List Outcome
  | working _ _ _ reported => reported
  | finished (.ok reported) => reported
  | finished (.error _) => []

/-- An applier that makes all its requests to one client comes to a result. -/
inductive Alone {State : Type} (client : Client State) :
    Applier → State → Except ApplyError (List Outcome) → State → Prop where
  | finished (result : Except ApplyError (List Outcome)) (state : State) :
      Alone client (finished result) state result state
  | asks {applier : Applier} {request : Request} {state last : State}
      {result : Except ApplyError (List Outcome)} (hrequest : applier.request? = some request)
      (others : Alone client (applier.resume (client request state).1) (client request state).2
        result last) : Alone client applier state result last

theorem proceed_cons_none {object : RenderedObject} (reported : List Outcome)
    (rest : List RenderedObject) (h : object.manifest? = none) :
    proceed reported (object :: rest) = proceed reported rest := by
  rw [proceed, h]

theorem proceed_cons_some {object : RenderedObject} {m : Manifest} (reported : List Outcome)
    (rest : List RenderedObject) (h : object.manifest? = some m) :
    proceed reported (object :: rest) = working m .creating rest reported := by
  rw [proceed, h]

section Alone

variable {State : Type} {client : Client State} {m : Manifest} {rest : List RenderedObject}
  {reported : List Outcome} {result : Except ApplyError (List Outcome)} {state last : State}

/-- What is left to show of an applier that works on a manifest, when the manifest has come to a
result. -/
def Continues (client : Client State) (m : Manifest) (rest : List RenderedObject)
    (reported : List Outcome) (result : Except ApplyError (List Outcome)) (last : State) :
    Except PhaseError Outcome × State → Prop
  | (.ok first, next) => Alone client (proceed (reported ++ [first]) rest) next result last
  | (.error (phase, cause), next) => Alone client (failed m phase cause) next result last

theorem alone_replacing (sent : Resource)
    (h : Continues client m rest reported result last (replace client m.id sent state)) :
    Alone client (working m (.replacing sent) rest reported) state result last := by
  refine .asks rfl ?_
  revert h
  unfold replace
  rcases client (.update sent) state with ⟨answer, next⟩
  cases answer <;> exact id

theorem alone_creating
    (h : Continues client m rest reported result last (createOrUpdate client m state)) :
    Alone client (working m .creating rest reported) state result last := by
  -- Each request of the applier is one that `createOrUpdate` makes, so both are split by its
  -- answer.
  refine .asks rfl ?_
  revert h
  unfold createOrUpdate
  rcases client (.create m.resource) state with ⟨answer, afterCreate⟩
  cases answer with
  | ok live => exact id
  | error cause =>
      cases cause with
      | alreadyExists message =>
          simp only [resume]
          cases htyped : m.typed with
          | true => exact alone_replacing m.resource
          | false =>
              simp only [Bool.false_eq_true, if_false]
              intro h
              refine .asks rfl ?_
              revert h
              rcases client (.get m.id) afterCreate with ⟨read, afterGet⟩
              cases read with
              | ok existing => exact alone_replacing _
              | error cause => exact id
      | api _ | transport _ | missingType | missingName _ => exact id

end Alone

/-- The result to which an applier comes alone is determined. -/
theorem Alone.unique {State : Type} {client : Client State} {applier : Applier}
    {state last last' : State} {result result' : Except ApplyError (List Outcome)}
    (h : Alone client applier state result last) (h' : Alone client applier state result' last') :
    result = result' ∧ last = last' := by
  induction h with
  | finished first state =>
      cases h' with
      | finished _ _ => exact ⟨rfl, rfl⟩
      | asks hrequest _ => exact absurd hrequest (Option.some_ne_none _).symm
  | asks hrequest _ ih =>
      cases h' with
      | finished _ _ => exact absurd hrequest (Option.some_ne_none _).symm
      | asks hrequest' hothers =>
          obtain rfl := Option.some.inj (hrequest.symm.trans hrequest')
          exact ih hothers

end Applier

/-- Left alone with a client, an applier does what an apply does. -/
theorem apply_alone {State : Type} (client : Client State) (reported : List Outcome)
    (objects : List RenderedObject) (state : State) :
    Applier.Alone client (.proceed reported objects) state
      ((apply client objects state).1.map (reported ++ ·)) (apply client objects state).2 := by
  induction objects generalizing reported state with
  | nil =>
      rw [show ((apply client [] state).1.map (reported ++ ·)) = .ok reported by
        simp [apply, Except.map]]
      exact .finished _ state
  | cons object rest ih =>
      cases hmanifest : object.manifest? with
      | none =>
          rw [Applier.proceed_cons_none _ rest hmanifest, apply_cons_none _ rest _ hmanifest]
          exact ih reported state
      | some m =>
          rw [Applier.proceed_cons_some _ rest hmanifest]
          apply Applier.alone_creating
          rcases hrun : createOrUpdate client m state with ⟨answer, next⟩
          cases answer with
          | error failure =>
              obtain ⟨phase, cause⟩ := failure
              rw [apply_cons_error rest hmanifest hrun]
              exact .finished _ next
          | ok first =>
              rw [apply_cons_ok rest hmanifest hrun]
              have hothers := ih (reported ++ [first]) next
              cases hresult : (apply client rest next).1 with
              | ok outcomes => simpa [Applier.Continues, hresult, Except.map] using hothers
              | error e => simpa [Applier.Continues, hresult, Except.map] using hothers

/-! ## Exchanges had again -/

/-- A client whose answers are a list; without one left it cannot be reached. -/
def Client.replaying : Client (List (Except ClientError Resource)) := fun _ answers =>
  match answers with
  | [] => (.error (.transport .unreachable), [])
  | answer :: rest => (answer, rest)

namespace Applier

/-- What an applier becomes over the exchanges that it has. -/
inductive Exchanges (first : Applier) : List Exchange → Applier → Prop where
  | none : Exchanges first [] first
  | snoc {before : List Exchange} {applier : Applier} {request : Request}
      (past : Exchanges first before applier) (hrequest : applier.request? = some request)
      (answer : Except ClientError Resource) :
      Exchanges first (before ++ [⟨request, answer⟩]) (applier.resume answer)

/-- Exchanges can be had again, with a client that gives the same answers. -/
theorem Exchanges.alone {first applier : Applier} {past : List Exchange}
    (h : Exchanges first past applier) {later : List (Except ClientError Resource)}
    {result : Except ApplyError (List Outcome)}
    {last : List Exchange × List (Except ClientError Resource)}
    (hrest : Alone Client.replaying.transcribing applier (past, later) result last) :
    Alone Client.replaying.transcribing first ([], past.map Exchange.answer ++ later) result last := by
  induction h generalizing later with
  | none => exact hrest
  | snoc past hrequest answer ih =>
      -- The latest exchange is the first of what is left to be had.
      rw [List.map_append, List.append_assoc]
      exact ih (.asks hrequest hrest)

end Applier

end ResourceTemplate.Cluster

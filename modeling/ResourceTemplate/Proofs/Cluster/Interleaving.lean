import ResourceTemplate.Proofs.Cluster.Applier
import ResourceTemplate.Proofs.Cluster.Memory

/-!
# Appliers that share a cluster

A system is a cluster in memory with a family of appliers, of which any may make the next request.
A request and its answer are one step.  The history of a system holds the requests in the order in
which they were made, each with the cluster that it met, so the answer to it is determined.

The others may come in between the requests of an applier at any time.  All the same it does what
`apply` does when it is given the answers that the applier got; `apply_of_finished` says so.
-/

namespace ResourceTemplate.Cluster

/-! ## Systems -/

variable {Name : Type}

/-- A request in the history of a system. -/
structure Event (Name : Type) where
  who : Name
  request : Request
  /-- The cluster that the request met. -/
  before : Memory

namespace Event

/-- The answer to the request. -/
def answer (e : Event Name) : Except ClientError Resource := (Memory.client e.request e.before).1

/-- The cluster after the request. -/
def after (e : Event Name) : Memory := (Memory.client e.request e.before).2

/-- The key that the request is about. -/
def key (e : Event Name) : Key :=
  match e.request with
  | .create r => e.before.landing r
  | .get id => e.before.keyOfId id
  | .update r => e.before.landing r

/-- The request is a create or an update that was granted. -/
def Commits (e : Event Name) : Prop := e.request.payload?.isSome ∧ ∃ live, e.answer = .ok live

theorem key_of_payload {e : Event Name} {r : Resource} (h : e.request.payload? = some r) :
    e.key = e.before.landing r := by
  unfold key
  cases hrequest : e.request with
  | create s | update s =>
      rw [hrequest] at h
      obtain rfl := Option.some.inj h
      rfl
  | get id => simp [hrequest, Request.payload?] at h

/-- An event changes nothing, or it commits a resource under its key. -/
theorem cases_commits (e : Event Name) :
    (e.after = e.before ∧ ¬e.Commits) ∨
      (e.Commits ∧ ∃ r, e.after = e.before.landed r ∧ e.key = e.before.landing r) := by
  rcases Memory.client_cases e.request e.before with ⟨hsame, hrefused⟩ | ⟨r, hpayload, hwritten⟩
  · refine Or.inl ⟨hsame, ?_⟩
    rintro ⟨hpayload, live, hanswer⟩
    obtain ⟨r, hr⟩ := Option.isSome_iff_exists.mp hpayload
    exact hrefused r live hr hanswer
  · refine Or.inr ⟨⟨by rw [hpayload]; rfl, _, congrArg Prod.fst hwritten⟩, r, ?_, ?_⟩
    · exact congrArg Prod.snd hwritten
    · exact key_of_payload hpayload

end Event

/-- A cluster with the appliers that share it. -/
structure System (Name : Type) where
  cluster : Memory
  appliers : Name → Applier
  /-- The requests made so far, the latest last. -/
  history : List (Event Name)

namespace System

/-- The appliers before their first requests. -/
def start (cluster : Memory) (jobs : Name → List RenderedObject) : System Name :=
  ⟨cluster, fun who => .proceed [] (jobs who), []⟩

/-- The event of a request that is made now. -/
def event (s : System Name) (who : Name) (request : Request) : Event Name :=
  ⟨who, request, s.cluster⟩

variable [DecidableEq Name]

/-- The system after a request of an applier. -/
def answered (s : System Name) (who : Name) (request : Request) : System Name where
  cluster := (s.event who request).after
  appliers other :=
    if other = who then (s.appliers who).resume (s.event who request).answer
    else s.appliers other
  history := s.history ++ [s.event who request]

/-- Let an applier make its next request, if it has one. -/
def step (s : System Name) (who : Name) : System Name :=
  match (s.appliers who).request? with
  | none => s
  | some request => s.answered who request

/-- Let appliers make requests in the order of a schedule. -/
def run (s : System Name) (schedule : List Name) : System Name :=
  schedule.foldl step s

end System

/-! ## What an applier does in a system -/

/-- What a request and its answer exchange. -/
def Event.exchange (e : Event Name) : Exchange := ⟨e.request, e.answer⟩

namespace System

variable [DecidableEq Name]

/-- The exchanges of one applier with the cluster, the latest last. -/
def exchanges (s : System Name) (who : Name) : List Exchange :=
  (s.history.filter (·.who = who)).map Event.exchange

/-- Every applier has become what its own exchanges make of it. -/
def Faithful (jobs : Name → List RenderedObject) (s : System Name) : Prop :=
  ∀ who, Applier.Exchanges (.proceed [] (jobs who)) (s.exchanges who) (s.appliers who)

theorem exchanges_answered (s : System Name) (who : Name) (request : Request) (other : Name) :
    (s.answered who request).exchanges other =
      if other = who then s.exchanges other ++ [(s.event who request).exchange]
      else s.exchanges other := by
  have hevent : (s.event who request).who = who := rfl
  unfold exchanges answered
  rw [List.filter_append, List.map_append, List.filter_singleton, hevent]
  by_cases hother : other = who
  · simp [hother]
  · simp [hother, Ne.symm hother]

theorem Faithful.step {jobs : Name → List RenderedObject} {s : System Name}
    (h : Faithful jobs s) (who : Name) : Faithful jobs (s.step who) := by
  unfold System.step
  cases hrequest : (s.appliers who).request? with
  | none => exact h
  | some request =>
      intro other
      rw [exchanges_answered]
      by_cases hother : other = who
      · subst hother
        have hsnoc : Applier.Exchanges (.proceed [] (jobs other))
            (s.exchanges other ++ [(s.event other request).exchange])
            ((s.appliers other).resume (s.event other request).answer) :=
          (h other).snoc hrequest _
        simpa [answered] using hsnoc
      · simpa [answered, hother] using h other

theorem Faithful.run {jobs : Name → List RenderedObject} {s : System Name}
    (h : Faithful jobs s) (schedule : List Name) : Faithful jobs (s.run schedule) := by
  induction schedule generalizing s with
  | nil => exact h
  | cons who rest ih => exact ih (h.step who)

/-- An applier that has finished has done what `apply` does with a client that gives the answers
which the applier got, in whatever order the requests of others came in between. -/
theorem apply_of_finished (cluster : Memory) (jobs : Name → List RenderedObject)
    (schedule : List Name) {who : Name} {result : Except ApplyError (List Outcome)}
    (h : ((start cluster jobs).run schedule).appliers who = .finished result) :
    let had := ((start cluster jobs).run schedule).exchanges who
    apply Client.replaying.transcribing (jobs who) ([], had.map Exchange.answer) =
      (result, had, []) := by
  intro had
  have hstart : Faithful jobs (start cluster jobs) := fun _ => .none
  have hfaithful : Applier.Exchanges (.proceed [] (jobs who)) had (.finished result) := by
    rw [← h]
    exact hstart.run schedule who
  have hreplayed := hfaithful.alone (.finished result (had, []))
  rw [List.append_nil] at hreplayed
  obtain ⟨hresult, hlast⟩ := (apply_alone Client.replaying.transcribing [] (jobs who)
    ([], had.map Exchange.answer)).unique hreplayed
  refine Prod.ext ?_ hlast
  rw [← hresult]
  cases (apply Client.replaying.transcribing (jobs who) ([], had.map Exchange.answer)).1 <;> rfl

end System

/-! ## Stretches of a history -/

/-- A stretch of a history leads from one cluster to another. -/
def Leads : Memory → List (Event Name) → Memory → Prop
  | first, [], last => first = last
  | first, e :: rest, last => e.before = first ∧ Leads e.after rest last

theorem Leads.snoc {first last : Memory} {stretch : List (Event Name)} (h : Leads first stretch last)
    {e : Event Name} (he : e.before = last) : Leads first (stretch ++ [e]) e.after := by
  induction stretch generalizing first with
  | nil => exact ⟨he.trans (Eq.symm h), rfl⟩
  | cons head rest ih => exact ⟨h.1, ih h.2⟩

/-- Over a stretch a key keeps what it holds if nothing was committed under it; otherwise it comes
to hold a version newer than all those given out before. -/
theorem Leads.stored_cases {first last : Memory} {stretch : List (Event Name)}
    (h : Leads first stretch last) (key : Key) :
    (last.stored key = first.stored key ∧ ∀ e ∈ stretch, e.Commits → e.key ≠ key) ∨
      ∃ r n, last.stored key = some r ∧ r.metadata.resourceVersion? = some (toString n) ∧
        first.issued < n := by
  induction stretch generalizing first with
  | nil =>
      have hsame : first = last := h
      exact Or.inl ⟨by rw [hsame], by simp⟩
  | cons e rest ih =>
      obtain ⟨rfl, hrest⟩ := h
      rcases e.cases_commits with ⟨hsame, hquiet⟩ | ⟨hcommits, r, hafter, hkey⟩
      · rw [hsame] at hrest
        rcases ih hrest with ⟨hstored, hothers⟩ | hnewer
        · refine Or.inl ⟨hstored, ?_⟩
          intro x hx hxCommits
          rcases List.mem_cons.mp hx with rfl | hx
          · exact absurd hxCommits hquiet
          · exact hothers x hx hxCommits
        · exact Or.inr hnewer
      · rw [hafter] at hrest
        rcases ih hrest with ⟨hstored, hothers⟩ | ⟨s, n, hs, hversion, hn⟩
        · -- After the commit the key is left alone; the commit may have been under it.
          by_cases hhere : key = e.key
          · rw [hhere, hkey, Memory.landed_stored_self] at hstored
            rw [← hkey, ← hhere] at hstored
            exact Or.inr ⟨_, e.before.issued + 1, hstored, Memory.stamp_version _ _,
              Nat.lt_succ_self _⟩
          · rw [Memory.landed_stored_of_ne _ _ (by rw [← hkey]; exact hhere)] at hstored
            refine Or.inl ⟨hstored, ?_⟩
            intro x hx hxCommits
            rcases List.mem_cons.mp hx with rfl | hx
            · exact Ne.symm hhere
            · exact hothers x hx hxCommits
        · refine Or.inr ⟨s, n, hs, hversion, ?_⟩
          rw [Memory.landed_issued] at hn
          omega

/-- What carries, at the end of a stretch, a version that was read at its beginning, is what was
read: it is kept under the same key, and nothing was committed there in between. -/
theorem Leads.eq_of_version {first last : Memory} {stretch : List (Event Name)}
    (h : Leads first stretch last) (hversioned : Memory.Versioned first) {readKey key : Key}
    {existing current : Resource} (hread : first.stored readKey = some existing)
    (hcurrent : last.stored key = some current)
    (hsame : current.metadata.resourceVersion? = existing.metadata.resourceVersion?) :
    readKey = key ∧ current = existing ∧ ∀ e ∈ stretch, e.Commits → e.key ≠ key := by
  rcases h.stored_cases key with ⟨hstored, hquiet⟩ | ⟨r, n, hr, hversion, hn⟩
  · rw [hstored] at hcurrent
    have hkey : readKey = key := hversioned.distinct hread hcurrent hsame.symm
    subst hkey
    exact ⟨rfl, Option.some.inj (hcurrent.symm.trans hread), hquiet⟩
  · -- A version newer than all at the beginning cannot be one that was read there.
    obtain rfl := Option.some.inj (hr.symm.trans hcurrent)
    obtain ⟨i, hi, hissued⟩ := hversioned.issued hread
    have hni : n = i := Memory.toString_inj ((hversion.symm.trans hsame).trans hissued)
    omega

end ResourceTemplate.Cluster

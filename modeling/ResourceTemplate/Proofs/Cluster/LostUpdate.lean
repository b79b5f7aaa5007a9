import Mathlib.Data.List.Forall2
import ResourceTemplate.Proofs.Cluster.Interleaving

/-!
# No update is lost

Appliers share a cluster in memory, and their requests interleave in any order.  An applier that
replaces an object of an unknown kind reads it first.  The main statement is that the replacement is
granted only if the cluster still holds what was read: under the key that was read, which then is
the key that is written, and with no commit of anybody there in between.  Otherwise it is refused as
a conflict, nothing changes, and the applier reports the failure of its update.

The read goes by the id of a manifest and the write by the resource, and the two keys are computed
apart; an empty namespace makes them differ.  That does no harm, since a version is given out once:
the version that was read under one key is current under no other.

The invariant `Sound` says where each applier stands.  An applier that is about to replace something
has grounds for it: its latest request was the read, and the stretch of history since then leads
from the cluster that was read to the present one.
-/

namespace ResourceTemplate.Cluster

variable {Name : Type}

/-! ## The latest request of an applier -/

/-- An event is the latest of an applier, and the events since then are those of others. -/
structure Latest (history : List (Event Name)) (who : Name) (e : Event Name)
    (since : List (Event Name)) : Prop where
  split : ∃ earlier, history = earlier ++ e :: since
  own : e.who = who
  others : ∀ x ∈ since, x.who ≠ who

theorem latest_last (history : List (Event Name)) (e : Event Name) :
    Latest (history ++ [e]) e.who e [] :=
  ⟨⟨history, rfl⟩, rfl, by simp⟩

theorem Latest.snoc {history since : List (Event Name)} {who : Name} {e x : Event Name}
    (h : Latest history who e since) (hx : x.who ≠ who) :
    Latest (history ++ [x]) who e (since ++ [x]) := by
  obtain ⟨⟨earlier, rfl⟩, hown, hothers⟩ := h
  refine ⟨⟨earlier, by simp⟩, hown, ?_⟩
  intro y hy
  rcases List.mem_append.mp hy with hy | hy
  · exact hothers y hy
  · rw [List.mem_singleton.mp hy]
    exact hx

theorem Latest.unique {history since since' : List (Event Name)} {who : Name} {e e' : Event Name}
    (h : Latest history who e since) (h' : Latest history who e' since') :
    e = e' ∧ since = since' := by
  obtain ⟨⟨earlier, hsplit⟩, hown, hothers⟩ := h
  obtain ⟨⟨earlier', hsplit'⟩, hown', hothers'⟩ := h'
  -- If one of the two stood before the other, the other would be among the events of others.
  rw [hsplit, List.append_eq_append_iff] at hsplit'
  rcases hsplit' with ⟨gap, -, hgap⟩ | ⟨gap, -, hgap⟩
  · cases gap with
    | nil => exact List.cons.inj hgap
    | cons x gap =>
        obtain ⟨rfl, hsince⟩ := List.cons.inj hgap
        exact absurd hown' (hothers e' (by rw [hsince]; simp))
  · cases gap with
    | nil =>
        obtain ⟨he, hsince⟩ := List.cons.inj hgap
        exact ⟨he.symm, hsince.symm⟩
    | cons x gap =>
        obtain ⟨rfl, hsince⟩ := List.cons.inj hgap
        exact absurd hown (hothers' e (by rw [hsince]; simp))

/-! ## What is claimed of reads and updates -/

/-- An update has replaced exactly what its applier had read for a manifest, and nobody committed
anything under that key in between. -/
structure ReplacesRead (m : Manifest) (o : Outcome) (read : Event Name)
    (between : List (Event Name)) (update : Event Name) : Prop where
  own : update.who = read.who
  others : ∀ e ∈ between, e.who ≠ read.who
  reads : read.request = .get m.id
  replaces : ∃ existing live, read.answer = .ok existing ∧
    update.request = .update (replacement m.resource existing) ∧ update.answer = .ok live ∧
    o = outcome m.id .updated live ∧ update.before.stored update.key = some existing
  key : read.key = update.key
  quiet : ∀ e ∈ between, e.Commits → e.key ≠ update.key

/-- An applier has read something, and then asks for an update although somebody committed something
under one of the two keys in between. -/
structure Stale (read : Event Name) (between : List (Event Name)) (update : Event Name) : Prop where
  own : update.who = read.who
  others : ∀ e ∈ between, e.who ≠ read.who
  reads : ∃ id existing, read.request = .get id ∧ read.answer = .ok existing
  updates : ∃ sent, update.request = .update sent
  overwritten : ∃ e ∈ between, e.Commits ∧ (e.key = read.key ∨ e.key = update.key)

/-- An update was refused as a conflict: nothing has changed, and the applier that asked for it on
behalf of an untyped manifest reports that its update failed. -/
structure Refused (objects : List RenderedObject) (read update : Event Name) (applier : Applier) :
    Prop where
  answer : update.answer = .error Memory.conflict
  unchanged : update.after = update.before
  reported : ∃ m ∈ manifests objects, m.typed = false ∧ read.request = .get m.id ∧
    applier = .finished (.error ⟨m.resource.kind, m.version, .update, m.id, Memory.conflict⟩)

/-! ## Where an applier stands -/

/-- The cluster holds something where a resource lands. -/
def Occupied (cluster : Memory) (r : Resource) : Prop :=
  ∃ current, cluster.stored (cluster.landing r) = some current

/-- Why an applier may be about to send a replacement: its latest request was a create of a typed
manifest, or a read of an untyped one from which a stretch of history leads to the present. -/
def Grounds (cluster : Memory) (m : Manifest) (sent : Resource) (e : Event Name)
    (since : List (Event Name)) : Prop :=
  (m.typed = true ∧ e.request = .create m.resource) ∨
    (m.typed = false ∧ e.request = .get m.id ∧ Memory.Versioned e.before ∧
      Leads e.before since cluster ∧
      ∃ existing, e.answer = .ok existing ∧ sent = replacement m.resource existing)

/-- Where an applier stands with the manifest that it works on. -/
def Standing (s : System Name) (who : Name) (m : Manifest) : Stage → Prop
  | .creating => True
  | .reading => m.typed = false ∧ Occupied s.cluster m.resource
  | .replacing sent => Occupied s.cluster m.resource ∧
      ∃ e since, Latest s.history who e since ∧ Grounds s.cluster m sent e since

/-- An outcome is not that of an untyped update, or the history shows the update. -/
def Backed (history : List (Event Name)) (who : Name) (m : Manifest) (o : Outcome) : Prop :=
  m.typed = false → o.action = .updated →
    ∃ earlier read between update later,
      history = earlier ++ read :: (between ++ update :: later) ∧ read.who = who ∧
        ReplacesRead m o read between update

/-- How far an applier has got with its objects. -/
def Progress (objects : List RenderedObject) (s : System Name) (who : Name) : Applier → Prop
  | .working m stage rest reported => Standing s who m stage ∧
      ∃ done, manifests objects = done ++ m :: manifests rest ∧
        List.Forall₂ (Backed s.history who) done reported
  | .finished (.ok reported) => List.Forall₂ (Backed s.history who) (manifests objects) reported
  | .finished (.error _) => True

/-- The invariant of systems. -/
structure Sound (jobs : Name → List RenderedObject) (s : System Name) : Prop where
  versioned : Memory.Versioned s.cluster
  progress : ∀ who, Progress (jobs who) s who (s.appliers who)
  refused : ∀ earlier read between update later,
    s.history = earlier ++ read :: (between ++ update :: later) → Stale read between update →
      Refused (jobs read.who) read update (s.appliers read.who)

theorem Backed.snoc {history : List (Event Name)} {who : Name} {m : Manifest} {o : Outcome}
    (h : Backed history who m o) (e : Event Name) : Backed (history ++ [e]) who m o := by
  intro huntyped hupdated
  obtain ⟨earlier, read, between, update, later, rfl, hwho, hreplaces⟩ := h huntyped hupdated
  exact ⟨earlier, read, between, update, later ++ [e], by simp, hwho, hreplaces⟩

theorem backed_snoc_all {history : List (Event Name)} {who : Name} {done : List Manifest}
    {reported : List Outcome} (h : List.Forall₂ (Backed history who) done reported)
    (e : Event Name) : List.Forall₂ (Backed (history ++ [e]) who) done reported :=
  h.imp fun _ _ hbacked => hbacked.snoc e

/-- An applier that goes on has got as far as the outcomes that it has reported. -/
theorem progress_proceed {objects : List RenderedObject} {s : System Name} {who : Name}
    {done : List Manifest} {reported : List Outcome} (rest : List RenderedObject)
    (hdone : manifests objects = done ++ manifests rest)
    (hbacked : List.Forall₂ (Backed s.history who) done reported) :
    Progress objects s who (.proceed reported rest) := by
  induction rest with
  | nil =>
      rw [manifests_nil, List.append_nil] at hdone
      rw [← hdone] at hbacked
      exact hbacked
  | cons object rest ih =>
      cases hmanifest : object.manifest? with
      | none =>
          rw [manifests_cons_none rest hmanifest] at hdone
          rw [Applier.proceed_cons_none _ rest hmanifest]
          exact ih hdone
      | some m =>
          rw [manifests_cons_some rest hmanifest] at hdone
          rw [Applier.proceed_cons_some _ rest hmanifest]
          exact ⟨trivial, done, hdone, hbacked⟩

/-- An applier that has come to an outcome for its manifest goes on with one more reported. -/
theorem progress_reported {objects : List RenderedObject} {s : System Name} {who : Name}
    {done : List Manifest} {reported : List Outcome} {m : Manifest} {o : Outcome}
    (rest : List RenderedObject) (hdone : manifests objects = done ++ m :: manifests rest)
    (hbacked : List.Forall₂ (Backed s.history who) done reported)
    (ho : Backed s.history who m o) :
    Progress objects s who (.proceed (reported ++ [o]) rest) := by
  have hmore : List.Forall₂ (Backed s.history who) (done ++ [m]) (reported ++ [o]) :=
    List.rel_append hbacked (.cons ho .nil)
  exact progress_proceed rest (by rw [hdone, List.append_assoc]; rfl) hmore

/-! ## What an event does to the standing of appliers -/

theorem Event.after_default (e : Event Name) :
    e.after.defaultNamespace? = e.before.defaultNamespace? := by
  rcases e.cases_commits with ⟨hsame, -⟩ | ⟨-, r, hafter, -⟩
  · rw [hsame]
  · rw [hafter]
    rfl

/-- Nothing is ever removed from a cluster. -/
theorem Occupied.after {e : Event Name} {r : Resource} (h : Occupied e.before r) :
    Occupied e.after r := by
  obtain ⟨current, hcurrent⟩ := h
  rw [Occupied, Memory.landing_eq_of_default e.after_default]
  rcases e.cases_commits with ⟨hsame, -⟩ | ⟨-, written, hafter, -⟩
  · exact ⟨current, by rw [hsame]; exact hcurrent⟩
  · rw [hafter]
    by_cases hkey : e.before.landing r = e.before.landing written
    · exact ⟨_, by rw [hkey]; exact Memory.landed_stored_self _ _⟩
    · exact ⟨current, by rw [Memory.landed_stored_of_ne _ _ hkey]; exact hcurrent⟩

/-- What exists already when it is to be created is kept where it would land. -/
theorem occupied_of_alreadyExists {cluster : Memory} {r : Resource} {message : String}
    (h : (Memory.client (.create r) cluster).1 = .error (.alreadyExists message)) :
    Occupied cluster r := by
  have hcreate : (cluster.create r).1 = .error (.alreadyExists message) := h
  rcases Memory.create_cases cluster r with ⟨-, hok⟩ | ⟨current, text, hstored, -⟩ |
      ⟨cause, hcause, hrefused⟩
  · simp [hok] at hcreate
  · exact ⟨current, hstored⟩
  · rw [hrefused] at hcreate
    exact absurd (Except.error.inj hcreate) (hcause message)

theorem Event.stored_of_read {e : Event Name} {id : ResourceId} {existing : Resource}
    (hrequest : e.request = .get id) (hanswer : e.answer = .ok existing) :
    e.before.stored e.key = some existing := by
  unfold Event.answer at hanswer
  unfold Event.key
  rw [hrequest] at hanswer ⊢
  exact (Memory.get_eq_ok_iff _ _ _).mp hanswer

section AfterRead

/-! A replacement is sent after a read and a stretch of history. -/

variable {m : Manifest} {read update : Event Name} {since : List (Event Name)} {existing : Resource}

/-- If the current version is the one that was read, then nothing has happened to what was read. -/
theorem unchanged_since_read (hread : read.request = .get m.id)
    (hanswer : read.answer = .ok existing) (hversioned : Memory.Versioned read.before)
    (hleads : Leads read.before since update.before)
    (hrequest : update.request = .update (replacement m.resource existing)) {current : Resource}
    (hcurrent : update.before.stored
      (update.before.landing (replacement m.resource existing)) = some current)
    (hsame : current.metadata.resourceVersion? =
      (replacement m.resource existing).metadata.resourceVersion?) :
    read.key = update.key ∧ update.before.stored update.key = some existing ∧
      ∀ e ∈ since, e.Commits → e.key ≠ update.key := by
  have hkey : update.key = update.before.landing (replacement m.resource existing) :=
    Event.key_of_payload (by rw [hrequest]; rfl)
  rw [← hkey] at hcurrent
  rw [replacement_version] at hsame
  obtain ⟨hkeys, rfl, hquiet⟩ := hleads.eq_of_version hversioned
    (Event.stored_of_read hread hanswer) hcurrent hsame
  exact ⟨hkeys, hcurrent, hquiet⟩

/-- A replacement that is granted has replaced what was read. -/
theorem unchanged_of_granted (hread : read.request = .get m.id)
    (hanswer : read.answer = .ok existing) (hversioned : Memory.Versioned read.before)
    (hleads : Leads read.before since update.before)
    (hrequest : update.request = .update (replacement m.resource existing)) {live : Resource}
    (hgranted : update.answer = .ok live) :
    read.key = update.key ∧ update.before.stored update.key = some existing ∧
      ∀ e ∈ since, e.Commits → e.key ≠ update.key := by
  have hupdate : (update.before.update (replacement m.resource existing)).1 = .ok live := by
    rw [← hgranted, Event.answer, hrequest]
    rfl
  obtain ⟨n, -, hversion⟩ := hversioned.issued (Event.stored_of_read hread hanswer)
  rcases Memory.update_cases update.before (replacement m.resource existing) with
    ⟨current, hcurrent, hcarried, -⟩ | ⟨current, -, -, -, hrefused⟩ | ⟨cause, -, hrefused⟩
  · rcases hcarried with hnone | hsame
    · rw [replacement_version, hversion] at hnone
      exact absurd hnone (Option.some_ne_none _)
    · exact unchanged_since_read hread hanswer hversioned hleads hrequest hcurrent hsame
  · simp [hrefused] at hupdate
  · simp [hrefused] at hupdate

/-- A replacement is refused as a conflict once something was committed under either key. -/
theorem conflict_of_overwritten (hread : read.request = .get m.id)
    (hanswer : read.answer = .ok existing) (hversioned : Memory.Versioned read.before)
    (hleads : Leads read.before since update.before)
    (hrequest : update.request = .update (replacement m.resource existing))
    (hoccupied : Occupied update.before m.resource)
    (hoverwritten : ∃ e ∈ since, e.Commits ∧ (e.key = read.key ∨ e.key = update.key)) :
    update.answer = .error Memory.conflict ∧ update.after = update.before := by
  obtain ⟨n, -, hversion⟩ := hversioned.issued (Event.stored_of_read hread hanswer)
  have hnot : ¬(read.key = update.key ∧ update.before.stored update.key = some existing ∧
      ∀ e ∈ since, e.Commits → e.key ≠ update.key) := by
    rintro ⟨hkeys, -, hquiet⟩
    obtain ⟨e, he, hcommits, hkey⟩ := hoverwritten
    rw [hkeys, or_self] at hkey
    exact hquiet e he hcommits hkey
  have hclient : (update.answer, update.after) =
      update.before.update (replacement m.resource existing) := by
    rw [Event.answer, Event.after, hrequest]
    rfl
  rcases Memory.update_cases update.before (replacement m.resource existing) with
    ⟨current, hcurrent, hcarried, -⟩ | ⟨current, -, -, -, hrefused⟩ | ⟨cause, hmissing, -⟩
  · rcases hcarried with hnone | hsame
    · rw [replacement_version, hversion] at hnone
      exact absurd hnone (Option.some_ne_none _)
    · exact absurd
        (unchanged_since_read hread hanswer hversioned hleads hrequest hcurrent hsame) hnot
  · rw [hrefused] at hclient
    exact Prod.mk.inj hclient
  · -- What was there when the create was refused is there still.
    obtain ⟨current, hcurrent⟩ := hoccupied
    rw [replacement_eq_stamp m.resource hversion, Memory.landing_stamp, hcurrent] at hmissing
    exact absurd hmissing (Option.some_ne_none _)

end AfterRead

/-! ## Steps -/

section Steps

variable {objects : List RenderedObject} {s : System Name} {who : Name} {request : Request}

theorem working_of_update {applier : Applier} {sent : Resource}
    (h : applier.request? = some (.update sent)) :
    ∃ m rest reported, applier = .working m (.replacing sent) rest reported := by
  cases applier with
  | finished result => exact absurd h (Option.some_ne_none _).symm
  | working m stage rest reported =>
      cases stage with
      | creating => simp [Applier.request?] at h
      | reading => simp [Applier.request?] at h
      | replacing other =>
          obtain rfl : other = sent := by simpa [Applier.request?] using h
          exact ⟨m, rest, reported, rfl⟩

/-- A stale update is refused at the moment when it is made. -/
theorem refused_of_stale {applier : Applier} {read : Event Name} {earlier between : List (Event Name)}
    (hrequest : applier.request? = some request) (h : Progress objects s who applier)
    (hhistory : s.history = earlier ++ read :: between)
    (hstale : Stale read between (s.event who request)) :
    Refused objects read (s.event who request)
      (applier.resume (s.event who request).answer) := by
  obtain ⟨sent, hsent⟩ := hstale.updates
  obtain rfl : request = .update sent := hsent
  obtain ⟨m, rest, reported, rfl⟩ := working_of_update hrequest
  obtain ⟨⟨hoccupied, e, since, hlatest, hgrounds⟩, done, hdone, -⟩ := h
  -- The read of the stale update is the latest request of the applier.
  have hread : Latest s.history who read between :=
    ⟨⟨earlier, hhistory⟩, hstale.own.symm, fun x hx hxwho =>
      hstale.others x hx (hxwho.trans hstale.own)⟩
  obtain ⟨rfl, rfl⟩ := hlatest.unique hread
  obtain ⟨id, seen, hget, -⟩ := hstale.reads
  rcases hgrounds with ⟨-, hcreate⟩ | ⟨huntyped, hreads, hversioned, hleads, existing, hexisting, rfl⟩
  · -- The grounds of a typed manifest are a create, not a read.
    rw [hget] at hcreate
    exact Request.noConfusion hcreate
  · have hupdate : (s.event who (.update (replacement m.resource existing))).request =
        .update (replacement m.resource existing) := rfl
    obtain ⟨hanswer, hunchanged⟩ := conflict_of_overwritten hreads hexisting hversioned hleads
      hupdate hoccupied hstale.overwritten
    refine ⟨hanswer, hunchanged, m, by rw [hdone]; simp, huntyped, hreads, ?_⟩
    rw [hanswer]
    rfl

variable [DecidableEq Name]

/-- A request of one applier leaves the others where they stand. -/
theorem Progress.other {other : Name} {applier : Applier} (hne : who ≠ other)
    (h : Progress objects s other applier) :
    Progress objects (s.answered who request) other applier := by
  cases applier with
  | finished result =>
      cases result with
      | ok reported => exact backed_snoc_all h _
      | error e => trivial
  | working m stage rest reported =>
      obtain ⟨hstanding, done, hdone, hbacked⟩ := h
      refine ⟨?_, done, hdone, backed_snoc_all hbacked _⟩
      cases stage with
      | creating => trivial
      | reading => exact ⟨hstanding.1, Occupied.after (e := s.event who request) hstanding.2⟩
      | replacing sent =>
          obtain ⟨hoccupied, e, since, hlatest, hgrounds⟩ := hstanding
          refine ⟨Occupied.after (e := s.event who request) hoccupied, e, _,
            hlatest.snoc (x := s.event who request) hne, ?_⟩
          rcases hgrounds with htyped | ⟨huntyped, hread, hversioned, hleads, hexisting⟩
          · exact Or.inl htyped
          · exact Or.inr ⟨huntyped, hread, hversioned, hleads.snoc rfl, hexisting⟩

variable {m : Manifest} {rest : List RenderedObject} {reported : List Outcome}

theorem Progress.resume_creating
    (h : Progress objects s who (.working m .creating rest reported)) :
    Progress objects (s.answered who (.create m.resource)) who
      ((Applier.working m .creating rest reported).resume
        (s.event who (.create m.resource)).answer) := by
  obtain ⟨-, done, hdone, hbacked⟩ := h
  have hbacked' := backed_snoc_all hbacked (s.event who (.create m.resource))
  cases hanswer : (s.event who (.create m.resource)).answer with
  | ok live =>
      refine progress_reported rest hdone hbacked' ?_
      intro huntyped hupdated
      simp at hupdated
  | error cause =>
      cases cause with
      | alreadyExists message =>
          have hoccupied : Occupied (s.answered who (.create m.resource)).cluster m.resource :=
            (occupied_of_alreadyExists hanswer).after
          refine ⟨?_, done, hdone, hbacked'⟩
          -- A typed manifest is replaced without a read; the create is its latest request.
          cases htyped : m.typed with
          | true =>
              exact ⟨hoccupied, _, _, latest_last s.history _, Or.inl ⟨htyped, rfl⟩⟩
          | false => exact ⟨htyped, hoccupied⟩
      | api _ | transport _ | missingType | missingName _ => trivial

theorem Progress.resume_reading (hversioned : Memory.Versioned s.cluster)
    (h : Progress objects s who (.working m .reading rest reported)) :
    Progress objects (s.answered who (.get m.id)) who
      ((Applier.working m .reading rest reported).resume (s.event who (.get m.id)).answer) := by
  obtain ⟨⟨huntyped, hoccupied⟩, done, hdone, hbacked⟩ := h
  have hbacked' := backed_snoc_all hbacked (s.event who (.get m.id))
  cases hanswer : (s.event who (.get m.id)).answer with
  | ok existing =>
      refine ⟨⟨hoccupied, _, _, latest_last s.history _, Or.inr ?_⟩, done, hdone, hbacked'⟩
      exact ⟨huntyped, rfl, hversioned, rfl, existing, hanswer, rfl⟩
  | error cause => trivial

theorem Progress.resume_replacing {sent : Resource}
    (h : Progress objects s who (.working m (.replacing sent) rest reported)) :
    Progress objects (s.answered who (.update sent)) who
      ((Applier.working m (.replacing sent) rest reported).resume
        (s.event who (.update sent)).answer) := by
  obtain ⟨⟨hoccupied, read, since, hlatest, hgrounds⟩, done, hdone, hbacked⟩ := h
  have hbacked' := backed_snoc_all hbacked (s.event who (.update sent))
  cases hanswer : (s.event who (.update sent)).answer with
  | error cause => trivial
  | ok live =>
      refine progress_reported rest hdone hbacked' ?_
      intro huntyped hupdated
      rcases hgrounds with ⟨htyped, -⟩ | ⟨-, hread, hversioned, hleads, existing, hexisting, rfl⟩
      · rw [huntyped] at htyped
        exact absurd htyped Bool.false_ne_true
      · obtain ⟨⟨earlier, hsplit⟩, hown, hothers⟩ := hlatest
        have hupdate : (s.event who (.update (replacement m.resource existing))).request =
            .update (replacement m.resource existing) := rfl
        obtain ⟨hkey, hstored, hquiet⟩ :=
          unchanged_of_granted hread hexisting hversioned hleads hupdate hanswer
        subst hown
        refine ⟨earlier, read, since,
          s.event read.who (.update (replacement m.resource existing)), [], ?_, rfl, ?_⟩
        · simp [System.answered, hsplit]
        · exact ⟨rfl, hothers, hread, ⟨existing, live, hexisting, rfl, hanswer, rfl, hstored⟩,
            hkey, hquiet⟩

/-- An applier whose request is answered stands where its next request has grounds. -/
theorem Progress.resume {applier : Applier} (hversioned : Memory.Versioned s.cluster)
    (hrequest : applier.request? = some request) (h : Progress objects s who applier) :
    Progress objects (s.answered who request) who
      (applier.resume (s.event who request).answer) := by
  cases applier with
  | finished result => exact absurd hrequest (Option.some_ne_none request).symm
  | working m stage rest reported =>
      cases stage with
      | creating =>
          obtain rfl := Option.some.inj hrequest
          exact h.resume_creating
      | reading =>
          obtain rfl := Option.some.inj hrequest
          exact h.resume_reading hversioned
      | replacing sent =>
          obtain rfl := Option.some.inj hrequest
          exact h.resume_replacing

/-- A step keeps a system sound. -/
theorem Sound.step {jobs : Name → List RenderedObject} (h : Sound jobs s) (who : Name) :
    Sound jobs (s.step who) := by
  unfold System.step
  cases hrequest : (s.appliers who).request? with
  | none => exact h
  | some request =>
      refine ⟨h.versioned.client request, ?_, ?_⟩
      · intro other
        by_cases hother : other = who
        · subst hother
          simpa [System.answered] using (h.progress other).resume h.versioned hrequest
        · have hstands : Progress (jobs other) (s.answered who request) other (s.appliers other) :=
            (h.progress other).other (Ne.symm hother)
          simpa [System.answered, hother] using hstands
      · intro earlier read between update later hhistory hstale
        rcases List.eq_nil_or_concat later with rfl | ⟨later, last, rfl⟩
        · -- The update is the request of this step.
          have hsplit : s.history ++ [s.event who request] =
              (earlier ++ read :: between) ++ [update] := by
            simpa [System.answered] using hhistory
          obtain ⟨hbefore, hupdate⟩ := List.append_inj' hsplit rfl
          obtain rfl : s.event who request = update := List.cons.inj hupdate |>.1
          obtain rfl : who = read.who := hstale.own
          simpa [System.answered] using
            refused_of_stale hrequest (h.progress read.who) hbefore hstale
        · -- The update was refused before, so its applier makes no more requests.
          have hsplit : s.history ++ [s.event who request] =
              (earlier ++ read :: (between ++ update :: later)) ++ [last] := by
            simpa [System.answered] using hhistory
          obtain ⟨hbefore, -⟩ := List.append_inj' hsplit rfl
          have hrefused := h.refused earlier read between update later hbefore hstale
          have hother : read.who ≠ who := by
            rintro rfl
            obtain ⟨m, -, -, -, hfinished⟩ := hrefused.reported
            rw [hfinished] at hrequest
            exact absurd hrequest (Option.some_ne_none _).symm
          simpa [System.answered, hother] using hrefused

end Steps

theorem sound_start {cluster : Memory} (h : Memory.Versioned cluster)
    (jobs : Name → List RenderedObject) : Sound jobs (System.start cluster jobs) where
  versioned := h
  progress who := progress_proceed (jobs who) (List.nil_append _).symm .nil
  refused := by
    intro earlier read between update later hhistory
    simp [System.start] at hhistory

theorem Sound.run [DecidableEq Name] {jobs : Name → List RenderedObject} {s : System Name}
    (h : Sound jobs s) (schedule : List Name) : Sound jobs (s.run schedule) := by
  induction schedule generalizing s with
  | nil => exact h
  | cons who rest ih => exact ih (h.step who)

theorem related_at {α β : Type} {R : α → β → Prop} {first : List α} {second : List β}
    (h : List.Forall₂ R first second) (others : List α) {k : Nat} {a : α} {b : β}
    (ha : (first ++ others)[k]? = some a) (hb : second[k]? = some b) : R a b := by
  induction h generalizing k with
  | nil => simp at hb
  | cons hrelated _ ih =>
      cases k with
      | zero =>
          obtain rfl := Option.some.inj ha
          obtain rfl := Option.some.inj hb
          exact hrelated
      | succ k => exact ih ha hb

/-- Every outcome that an applier reports is backed. -/
theorem Progress.backed {objects : List RenderedObject} {s : System Name} {who : Name}
    {applier : Applier} (h : Progress objects s who applier) {k : Nat} {m : Manifest} {o : Outcome}
    (hm : (manifests objects)[k]? = some m) (ho : applier.outcomes[k]? = some o) :
    Backed s.history who m o := by
  cases applier with
  | working current stage rest reported =>
      obtain ⟨-, done, hdone, hbacked⟩ := h
      rw [hdone] at hm
      exact related_at hbacked _ hm ho
  | finished result =>
      cases result with
      | error e => simp [Applier.outcomes] at ho
      | ok reported => exact related_at h [] (by rw [List.append_nil]; exact hm) ho

/-- Any number of appliers share a cluster and make their requests in any order.  One that finishes
has done what `apply` does with the answers that it got.  Whatever update of an untyped manifest an
applier reports has replaced exactly what it had read before, under the same key and with no commit
there in between.  If something was committed there after the read, then the update is refused as a
conflict, changes nothing, and makes the applier report a failed update. -/
theorem no_update_is_lost [DecidableEq Name] {cluster : Memory} (hcluster : Memory.Reached cluster)
    (jobs : Name → List RenderedObject) (schedule : List Name) :
    let final := (System.start cluster jobs).run schedule
    (∀ (who : Name) (result : Except ApplyError (List Outcome)),
        final.appliers who = .finished result →
          apply Client.replaying.transcribing (jobs who)
              ([], (final.exchanges who).map Exchange.answer) =
            (result, final.exchanges who, [])) ∧
      (∀ (who : Name) (k : Nat) (m : Manifest) (o : Outcome),
        (manifests (jobs who))[k]? = some m → (final.appliers who).outcomes[k]? = some o →
          m.typed = false → o.action = .updated →
            ∃ earlier read between update later,
              final.history = earlier ++ read :: (between ++ update :: later) ∧ read.who = who ∧
                ReplacesRead m o read between update) ∧
      ∀ earlier read between update later,
        final.history = earlier ++ read :: (between ++ update :: later) →
          Stale read between update →
            Refused (jobs read.who) read update (final.appliers read.who) := by
  intro final
  have hsound : Sound jobs final := (sound_start hcluster.versioned jobs).run schedule
  refine ⟨?_, ?_, hsound.refused⟩
  · intro who result hfinished
    exact System.apply_of_finished cluster jobs schedule hfinished
  · intro who k m o hm ho huntyped hupdated
    exact (hsound.progress who).backed hm ho huntyped hupdated

/-- A manifest whose kind is not known. -/
def widget : Manifest :=
  ⟨false, ⟨some ⟨"example.com/v1", "Widget"⟩, ⟨[("name", .string "w")]⟩, []⟩⟩

/-- The objects of an applier that has nothing but the widget. -/
def widgetJob : List RenderedObject := [⟨widget.resource.toJson, some widget⟩]

/-- A cluster that keeps the widget. -/
def stocked : Memory := ((Memory.empty [] none).seed widget.resource).2

/-- Two appliers replace the widget, and both read it before either of them writes it. -/
def race : System Bool :=
  (System.start stocked fun _ => widgetJob).run [false, true, false, true, false, true]

theorem race_is_decided :
    Memory.Reached stocked ∧
      (∃ earlier read between update later,
        race.history = earlier ++ read :: (between ++ update :: later) ∧ read.who = false ∧
          ReplacesRead widget ⟨widget.id, .updated⟩ read between update) ∧
      ∃ earlier read between update later,
        race.history = earlier ++ read :: (between ++ update :: later) ∧
          Stale read between update ∧
          Refused widgetJob read update (race.appliers true) := by
  have hreached : Memory.Reached stocked := (Memory.Reached.empty [] none).seed widget.resource
  obtain ⟨-, hreplaces, hrefused⟩ := no_update_is_lost hreached (fun _ => widgetJob)
    [false, true, false, true, false, true]
  refine ⟨hreached, hreplaces false 0 widget ⟨widget.id, .updated⟩ rfl rfl rfl rfl, ?_⟩
  refine ⟨race.history.take 3, _, [_], _, [], rfl, ?_⟩
  refine (and_iff_left_of_imp (hrefused (race.history.take 3) _ _ _ [] rfl)).mpr ?_
  exact
    { own := rfl
      others := by decide +kernel
      reads := ⟨_, _, rfl, rfl⟩
      updates := ⟨_, rfl⟩
      overwritten := ⟨_, List.mem_singleton_self _, ⟨rfl, _, rfl⟩, Or.inl rfl⟩ }

end ResourceTemplate.Cluster

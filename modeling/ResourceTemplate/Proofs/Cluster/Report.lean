import ResourceTemplate.Cluster.Script
import ResourceTemplate.Proofs.Cluster.Transcript
import ResourceTemplate.Proofs.Outcome

/-!
# What an apply reports

A successful apply reports one outcome for each manifest.  The outcome tells what the latest write
that succeeded did, and it tells of the namespace in which that write says that the object is.

An answer that names no namespace does not count here: then the namespace that the object was sent
with is told, although the cluster may have put the object outside of namespaces.
-/

namespace ResourceTemplate.Cluster

/-! ## The latest write -/

/-- What a request does to a resource if it is granted; to read it does nothing. -/
def Request.action? : Request → Option Action
  | create _ => some .created
  | get _ => none
  | update _ => some .updated

/-- Of the writes among exchanges, the latest that succeeded did this and gave this resource. -/
def LastWritten (calls : List Exchange) (action : Action) (live : Resource) : Prop :=
  ∃ before request after, calls = before ++ ⟨request, .ok live⟩ :: after ∧
    request.action? = some action ∧
    ∀ e ∈ after, e.request.action?.isSome → ∃ cause, e.answer = .error cause

/-- A write is the latest that succeeded when nothing follows it. -/
theorem lastWritten_concat (before : List Exchange) {request : Request} {action : Action}
    (live : Resource) (h : request.action? = some action) :
    LastWritten (before ++ [⟨request, .ok live⟩]) action live :=
  ⟨before, request, [], rfl, h, by simp⟩

/-! ## What is told of an object -/

/-- What is told of an object whose latest write gave a resource: what identifies it, the namespace
that the resource is in, and for want of that the namespace that the object was sent with. -/
structure Outcome.Reports (o : Outcome) (m : Manifest) (live : Resource) : Prop where
  apiVersion : o.id.apiVersion = m.resource.apiVersion
  kind : o.id.kind = m.resource.kind
  name : o.id.name = m.resource.name
  placed : ∀ ns, live.metadata.namespaceName? = some ns → ns ≠ "" → o.id.namespaceName? = some ns
  unplaced : live.metadata.namespaceName? = none ∨ live.metadata.namespaceName? = some "" →
    o.id.namespaceName? = m.resource.namespaceName?

theorem namespaceName?_eq_none {r : Resource} : r.namespaceName? = none ↔
    r.metadata.namespaceName? = none ∨ r.metadata.namespaceName? = some "" := by
  rw [Resource.namespaceName?, Option.filter_eq_none_iff]
  cases r.metadata.namespaceName? <;> simp

theorem namespaceName?_eq_some {r : Resource} {ns : String} : r.namespaceName? = some ns ↔
    r.metadata.namespaceName? = some ns ∧ ns ≠ "" := by
  simp [Resource.namespaceName?, Option.filter_eq_some_iff]

theorem reports_outcome (m : Manifest) (action : Action) (live : Resource) :
    (outcome m.id action live).Reports m live := by
  cases hlive : live.namespaceName? with
  | none =>
      have houtcome : outcome m.id action live = ⟨m.id, action⟩ := by simp [outcome, hlive]
      rw [houtcome]
      refine ⟨rfl, rfl, rfl, fun ns hns hne => ?_, fun _ => rfl⟩
      exact absurd (hlive.symm.trans (namespaceName?_eq_some.mpr ⟨hns, hne⟩)) (by simp)
  | some ns =>
      have houtcome : outcome m.id action live =
          ⟨{ m.id with namespaceName? := some ns }, action⟩ := by simp [outcome, hlive]
      rw [houtcome]
      refine ⟨rfl, rfl, rfl, fun other hother hne => ?_, fun hnone => ?_⟩
      · exact hlive.symm.trans (namespaceName?_eq_some.mpr ⟨hother, hne⟩)
      · exact absurd (hlive.symm.trans (namespaceName?_eq_none.mpr hnone)) (by simp)

/-- The namespace that is told is the one in which the cluster says that the object is, unless it
says none and the object was sent with one. -/
theorem Outcome.Reports.namespace_eq_iff {o : Outcome} {m : Manifest} {live : Resource}
    (h : o.Reports m live) : o.id.namespaceName? = live.namespaceName? ↔
      (live.namespaceName? = none → m.resource.namespaceName? = none) := by
  cases hlive : live.namespaceName? with
  | none => simp [h.unplaced (namespaceName?_eq_none.mp hlive)]
  | some ns =>
      obtain ⟨hns, hne⟩ := namespaceName?_eq_some.mp hlive
      simp [h.placed ns hns hne]

/-! ## Reports -/

/-- A manifest, the exchanges that were had about it, and what is told of it. -/
structure Report where
  manifest : Manifest
  calls : List Exchange
  outcome : Outcome

/-- The exchanges are a course of the manifest, and what is told is what the latest write gave. -/
structure Report.Sound (report : Report) : Prop where
  course : Course report.manifest report.calls (.ok report.outcome)
  written : ∃ live, LastWritten report.calls report.outcome.action live ∧
    report.outcome.Reports report.manifest live ∧
    (report.outcome.id.namespaceName? = live.namespaceName? ↔
      (live.namespaceName? = none → report.manifest.resource.namespaceName? = none))

theorem exists_of_updateResult {id : ResourceId} {answer : Except ClientError Resource} {o : Outcome}
    (h : updateResult id answer = .ok o) :
    ∃ live, answer = .ok live ∧ o = outcome id .updated live := by
  cases answer with
  | ok live => exact ⟨live, rfl, (Except.ok.inj h).symm⟩
  | error cause => exact absurd h (by simp [updateResult])

/-- A course that succeeds ends with the write that is told of. -/
theorem sound_of_course {m : Manifest} {calls : List Exchange} {o : Outcome}
    (h : Course m calls (.ok o)) : Report.Sound ⟨m, calls, o⟩ := by
  refine ⟨h, ?_⟩
  obtain ⟨before, request, action, live, rfl, haction, rfl⟩ :
      ∃ before request action live, calls = before ++ [⟨request, .ok live⟩] ∧
        request.action? = some action ∧ o = outcome m.id action live := by
    generalize hresult : Except.ok o = result at h
    cases h with
    | created live => exact ⟨[], .create m.resource, .created, live, rfl, rfl, Except.ok.inj hresult⟩
    | typed message answer htyped =>
        obtain ⟨live, rfl, ho⟩ := exists_of_updateResult hresult.symm
        exact ⟨[_], .update m.resource, .updated, live, rfl, rfl, ho⟩
    | untyped message existing sent answer huntyped hsent =>
        obtain ⟨live, rfl, ho⟩ := exists_of_updateResult hresult.symm
        exact ⟨[_, _], .update sent, .updated, live, rfl, rfl, ho⟩
    | refused | unread => cases hresult
  have hreports := reports_outcome m action live
  refine ⟨live, ?_, hreports, hreports.namespace_eq_iff⟩
  rw [outcome_action]
  exact lastWritten_concat before live haction

/-- A transcript that succeeds is one sound report after the other. -/
theorem exists_reports_of_transcript {ms : List Manifest} {calls : List Exchange}
    {outcomes : List Outcome} (h : Transcript ms calls (.ok outcomes)) :
    ∃ reports : List Report, reports.map Report.manifest = ms ∧
      reports.map Report.outcome = outcomes ∧ reports.flatMap Report.calls = calls ∧
      ∀ report ∈ reports, report.Sound := by
  generalize hresult : Except.ok outcomes = result at h
  induction h generalizing outcomes with
  | done =>
      obtain rfl := Except.ok.inj hresult
      exact ⟨[], rfl, rfl, rfl, by simp⟩
  | @next m rest calls later first result course others ih =>
      obtain ⟨told, rfl, rfl⟩ := exists_of_map_eq_ok hresult.symm
      obtain ⟨reports, rfl, rfl, rfl, hsound⟩ := ih rfl
      exact ⟨⟨m, calls, first⟩ :: reports, rfl, rfl, rfl,
        List.forall_mem_cons.mpr ⟨sound_of_course course, hsound⟩⟩
  | failed => cases hresult

variable {State : Type}

/-- Whatever the client answers, a successful apply reports one outcome for each manifest, in order.
It tells what the latest successful write about the manifest did, and as the namespace the one that
the answer to this write names, or else the one that the object was sent with. -/
theorem outcomes_report_last_write (client : Client State) (objects : List RenderedObject)
    (state : State) {outcomes : List Outcome} (h : (apply client objects state).1 = .ok outcomes) :
    ∃ reports : List Report, reports.map Report.manifest = manifests objects ∧
      reports.map Report.outcome = outcomes ∧
      apply client.transcribing objects ([], state) =
        (.ok outcomes, reports.flatMap Report.calls, (apply client objects state).2) ∧
      ∀ report ∈ reports, report.Sound := by
  obtain ⟨calls, hcalls, htranscript⟩ := apply_transcribing client objects [] state
  have hview := apply_view (transcribing_shows client) objects ([], state)
  have hplain : apply client objects state = _ := hview
  have hresult : (apply client.transcribing objects ([], state)).1 = .ok outcomes :=
    (congrArg Prod.fst hplain).symm.trans h
  rw [hresult] at htranscript
  obtain ⟨reports, hmanifests, houtcomes, rfl, hsound⟩ := exists_reports_of_transcript htranscript
  refine ⟨reports, hmanifests, houtcomes, ?_, hsound⟩
  rw [hplain, ← hresult]
  exact Prod.ext rfl (Prod.ext hcalls rfl)

/-- A resource that is in a namespace if there is one. -/
def placedIn (apiVersion kind name : String) (namespaceName? : Option String) : Resource :=
  ⟨some ⟨apiVersion, kind⟩, (Metadata.mk [("name", .string name)]).withNamespace namespaceName?, []⟩

/-- Objects of which one is new, one is replaced as it is, and one is replaced after it was read
back; one has no manifest. -/
def severalObjects : List RenderedObject :=
  [⟨.null, some ⟨true, placedIn "v1" "ConfigMap" "settings" none⟩⟩, ⟨.null, none⟩,
    ⟨.null, some ⟨true, placedIn "v1" "Secret" "token" (some "dev")⟩⟩,
    ⟨.null, some ⟨false, placedIn "example.com/v1" "Gadget" "dial" (some "dev")⟩⟩]

/-- Answers that place each of them in another namespace than the one it was sent with. -/
def placingReplies : List ScriptedReply :=
  let occupied := .status ⟨"Failure", "taken", ClientError.existsReason, ClientError.existsCode⟩
  [.object (placedIn "v1" "ConfigMap" "settings" (some "team")),
    occupied, .object (placedIn "v1" "Secret" "token" (some "team")),
    occupied, .object (placedIn "example.com/v1" "Gadget" "dial" (some "dev")),
    .object (placedIn "example.com/v1" "Gadget" "dial" (some "team"))]

theorem outcomes_report_last_write_severalObjects :
    let outcomes : List Outcome := [⟨⟨"v1", "ConfigMap", "settings", some "team"⟩, .created⟩,
      ⟨⟨"v1", "Secret", "token", some "team"⟩, .updated⟩,
      ⟨⟨"example.com/v1", "Gadget", "dial", some "team"⟩, .updated⟩]
    (apply ScriptedReply.client severalObjects placingReplies).1 = .ok outcomes ∧
      ∃ reports : List Report, reports.map Report.manifest = manifests severalObjects ∧
        reports.map Report.outcome = outcomes ∧ ∀ report ∈ reports, report.Sound := by
  intro outcomes
  have hrun : (apply ScriptedReply.client severalObjects placingReplies).1 = .ok outcomes := rfl
  obtain ⟨reports, hmanifests, houtcomes, -, hsound⟩ :=
    outcomes_report_last_write ScriptedReply.client severalObjects placingReplies hrun
  exact ⟨hrun, reports, hmanifests, houtcomes, hsound⟩

/-- A cluster role that was sent with a namespace is told to be there, although the answer to the
only write says that it is in none. -/
theorem sent_namespace_is_told :
    let role := placedIn "rbac.authorization.k8s.io/v1" "ClusterRole" "reader"
    (role none).metadata.namespaceName? = none ∧
      apply ScriptedReply.client.transcribing [⟨.null, some ⟨true, role (some "team")⟩⟩]
          ([], [.object (role none)]) =
        (.ok [⟨⟨"rbac.authorization.k8s.io/v1", "ClusterRole", "reader", some "team"⟩, .created⟩],
          [⟨.create (role (some "team")), .ok (role none)⟩], []) :=
  ⟨rfl, rfl⟩

end ResourceTemplate.Cluster

import ResourceTemplate.Command.Plan
import ResourceTemplate.Proofs.Cluster.Transcript
import ResourceTemplate.Proofs.Manifest.Payload

/-!
# What a plan announces

A plan is made from the raw values and an apply from the manifests, so they could disagree.  They do
not: an object that would be applied is called in the plan by the kind, the name and the namespace
by which the apply identifies it, and the objects that would be applied are those that an apply
creates. To an apply, the others might as well not be there.
-/

namespace ResourceTemplate

open Cluster Command

theorem Command.PlanEntry.result_of_ne {e : PlanEntry} (h : e.result ≠ "would apply") :
    e.result = "skipped" := by
  unfold result at h ⊢
  cases happlied : e.applied with
  | true => exact absurd (by rw [happlied]; rfl) h
  | false => rfl

namespace RenderedObject

/-- The plan says that the object would be applied. -/
def WouldApply (o : RenderedObject) : Prop := (PlanEntry.ofObject o).result = "would apply"

instance : DecidablePred WouldApply :=
  fun o => inferInstanceAs (Decidable ((PlanEntry.ofObject o).result = "would apply"))

theorem wouldApply_iff {o : RenderedObject} : o.WouldApply ↔ o.manifest?.isSome = true := by
  unfold WouldApply PlanEntry.result PlanEntry.ofObject
  cases o.manifest?.isSome <;> simp

theorem filter_wouldApply_cons_none {o : RenderedObject} (rest : List RenderedObject)
    (h : o.manifest? = none) :
    (o :: rest).filter (·.WouldApply) = rest.filter (·.WouldApply) :=
  List.filter_cons_of_neg (by simp [wouldApply_iff, h])

theorem filter_wouldApply_cons_some {o : RenderedObject} {m : Manifest} (rest : List RenderedObject)
    (h : o.manifest? = some m) :
    (o :: rest).filter (·.WouldApply) = o :: rest.filter (·.WouldApply) :=
  List.filter_cons_of_pos (by simp [wouldApply_iff, h])

theorem getString?_givenMetadata (o : RenderedObject) (key : String) :
    o.raw.givenMetadata.getString? key = (o.raw.get? "metadata").bind (·.getString? key) := by
  unfold Json.givenMetadata
  cases o.raw.get? "metadata" <;> rfl

end RenderedObject

/-- What a value says of itself is what its manifest is identified by, and its row in the plan shows
it. -/
structure Announces (o : RenderedObject) (m : Manifest) : Prop where
  apiVersion : o.apiVersion? = some m.id.apiVersion
  kind : o.kind? = some m.id.kind
  name : o.name?.getD "" = m.id.name
  namespaceName : o.namespaceName? = m.id.namespaceName?
  row : (PlanEntry.ofObject o).cells =
    [m.id.kind, o.name?.getD "-", m.id.namespaceName?.getD "-", "would apply"]

/-- A decoded manifest is announced by its value. -/
theorem announces_of_decodesTo {scheme : Scheme} {value : Json} {o : RenderedObject} {m : Manifest}
    (hvalue : value.Canonical) (h : scheme.DecodesTo value o) (hm : o.manifest? = some m) :
    Announces o m := by
  obtain ⟨rfl, hdecode⟩ := h
  rw [hm] at hdecode
  obtain ⟨members, types, -, hstated, htaken⟩ := Scheme.takenFrom_of_decode hvalue hdecode
  obtain ⟨⟨hversion, -⟩, hkind, -⟩ := Scheme.statedType?_eq_some_iff.mp hstated
  have hidVersion : m.id.apiVersion = types.apiVersion := by
    simp [Manifest.id, Resource.apiVersion, htaken.types]
  have hidKind : m.id.kind = types.kind := by
    simp [Manifest.id, Resource.kind, htaken.types]
  have hname : o.name? = m.resource.metadata.name? :=
    (o.getString?_givenMetadata "name").symm.trans
      (Scheme.text?_of_decode hvalue hdecode rfl (by decide)).symm
  have hnamespace : o.namespaceName? = m.id.namespaceName? :=
    congrArg (Option.filter (· ≠ "")) ((o.getString?_givenMetadata "namespace").symm.trans
      (Scheme.text?_of_decode hvalue hdecode rfl (by decide)).symm)
  have hstatedKind : o.kind? = some m.id.kind :=
    hidKind ▸ Json.getString?_eq_some_iff.mpr hkind
  refine ⟨hidVersion ▸ Json.getString?_eq_some_iff.mpr hversion, hstatedKind,
    congrArg (Option.getD · "") hname, hnamespace, ?_⟩
  simp [PlanEntry.cells, PlanEntry.ofObject, PlanEntry.result, PlanEntry.absent, hstatedKind,
    hnamespace, hm]

/-- The objects that would be applied announce the manifests, in order. -/
theorem announces_manifests {scheme : Scheme} {values : List Json} {rendered : List RenderedObject}
    (hvalues : ∀ value ∈ values, value.Canonical)
    (h : List.Forall₂ scheme.DecodesTo values rendered) :
    List.Forall₂ Announces (rendered.filter (·.WouldApply)) (manifests rendered) := by
  induction h with
  | nil => exact .nil
  | @cons value o values rest hfirst _ ih =>
      have hothers := ih fun other hother => hvalues other (List.mem_cons_of_mem _ hother)
      cases hmanifest : o.manifest? with
      | none =>
          rw [RenderedObject.filter_wouldApply_cons_none rest hmanifest,
            manifests_cons_none rest hmanifest]
          exact hothers
      | some m =>
          rw [RenderedObject.filter_wouldApply_cons_some rest hmanifest,
            manifests_cons_some rest hmanifest]
          exact .cons (announces_of_decodesTo (hvalues value List.mem_cons_self) hfirst hmanifest)
            hothers

namespace Cluster

/-- An apply does the same without the objects that are skipped. -/
theorem apply_filter_wouldApply {State : Type} (client : Client State)
    (objects : List RenderedObject) (state : State) :
    apply client (objects.filter (·.WouldApply)) state = apply client objects state := by
  induction objects generalizing state with
  | nil => rfl
  | cons o rest ih =>
      cases hmanifest : o.manifest? with
      | none =>
          rw [RenderedObject.filter_wouldApply_cons_none rest hmanifest, ih,
            apply_cons_none client rest state hmanifest]
      | some m =>
          rw [RenderedObject.filter_wouldApply_cons_some rest hmanifest]
          simp only [apply, hmanifest, ih]

/-- The request was granted. -/
def Exchange.Granted (exchange : Exchange) : Prop := exchange.answer.isOk = true

/-- When every request of a course is granted, it is a single create. -/
theorem Course.requests_of_granted {m : Manifest} {calls : List Exchange}
    {result : Except PhaseError Outcome} (h : Course m calls result)
    (hgranted : ∀ call ∈ calls, call.Granted) :
    calls.map Exchange.request = [.create m.resource] ∧ ∃ first, result = .ok first := by
  cases h with
  | created live => exact ⟨rfl, _, rfl⟩
  | refused | typed | unread | untyped =>
      exact absurd (hgranted _ List.mem_cons_self) Bool.false_ne_true

/-- When every request of a transcript is granted, each manifest is created and no more is asked. -/
theorem Transcript.requests_of_granted {ms : List Manifest} {calls : List Exchange}
    {result : Except ApplyError (List Outcome)} (h : Transcript ms calls result)
    (hgranted : ∀ call ∈ calls, call.Granted) :
    calls.map Exchange.request = ms.map fun m => .create m.resource := by
  induction h with
  | done => rfl
  | next course _ ih =>
      have hfirst := course.requests_of_granted fun call hcall =>
        hgranted call (List.mem_append_left _ hcall)
      have hothers := ih fun call hcall => hgranted call (List.mem_append_right _ hcall)
      rw [List.map_append, hfirst.1, hothers]
      rfl
  | failed course =>
      obtain ⟨-, first, hfirst⟩ := course.requests_of_granted hgranted
      cases hfirst

/-- The exchanges of an apply with a client. -/
def exchanges {State : Type} (client : Client State) (objects : List RenderedObject)
    (state : State) : List Exchange :=
  (apply client.transcribing objects ([], state)).2.1

theorem requests_of_granted {State : Type} (client : Client State) (objects : List RenderedObject)
    (state : State) (hgranted : ∀ call ∈ exchanges client objects state, call.Granted) :
    (exchanges client objects state).map Exchange.request =
      (manifests objects).map fun m => .create m.resource := by
  obtain ⟨calls, hcalls, htranscript⟩ := apply_transcribing client objects [] state
  obtain rfl : calls = exchanges client objects state := hcalls.symm
  exact htranscript.requests_of_granted hgranted

end Cluster

namespace Command

/-- A plan announces what an apply would do.  The rows that say so name, one by one, the manifests
that an apply creates while every request is granted, and nothing else is asked then.  The other
rows say that an object is skipped, and an apply does the same without these objects, whatever it is
answered. -/
theorem plan_announces_apply {scheme : Scheme} {values : List Json} {rendered : List RenderedObject}
    (hvalues : ∀ value ∈ values, value.Canonical) (h : scheme.convert values = .ok rendered) :
    (plan rendered).filter (·.result = "would apply") =
        (rendered.filter (·.WouldApply)).map PlanEntry.ofObject ∧
      List.Forall₂ Announces (rendered.filter (·.WouldApply)) (manifests rendered) ∧
      (∀ e ∈ plan rendered, e.result ≠ "would apply" → e.result = "skipped") ∧
      ∀ {State : Type} (client : Client State) (state : State),
        apply client (rendered.filter (·.WouldApply)) state = apply client rendered state ∧
          ((∀ call ∈ exchanges client rendered state, call.Granted) →
            (exchanges client rendered state).map Exchange.request =
              (manifests rendered).map fun m => .create m.resource) := by
  refine ⟨List.filter_map, announces_manifests hvalues (Scheme.convert_eq_ok_iff.mp h),
    fun e _ he => e.result_of_ne he, fun client state => ⟨?_, ?_⟩⟩
  · exact apply_filter_wouldApply client rendered state
  · exact requests_of_granted client rendered state

/-- A client that grants every request for what it is given. -/
def granting : Client Unit
  | .create object, _ | .update object, _ => (.ok object, ())
  | .get _, _ => (.error .missingType, ())

/-- A config map with an empty namespace, a number, and an object of an unknown kind without a name.
-/
def configMapNumberWidget : List Json :=
  [.object [("apiVersion", .string "v1"), ("kind", .string "ConfigMap"),
      ("metadata", .object [("name", .string "cfg"), ("namespace", .string "")])],
    .number (.natural 1),
    .object [("apiVersion", .string "example.com/v1"), ("kind", .string "Widget"),
      ("metadata", .object [("name", .null), ("namespace", .string "prod")])]]

theorem plan_announces_apply_granting :
    (∀ value ∈ configMapNumberWidget, value.Canonical) ∧
      ∃ rendered, Scheme.builtin.convert configMapNumberWidget = .ok rendered ∧
        (plan rendered).map PlanEntry.cells =
          [["ConfigMap", "cfg", "-", "would apply"], ["-", "-", "-", "skipped"],
            ["Widget", "-", "prod", "would apply"]] ∧
        List.Forall₂ Announces (rendered.filter (·.WouldApply)) (manifests rendered) ∧
        (exchanges granting rendered ()).map Exchange.request =
          (manifests rendered).map fun m => .create m.resource := by
  have hvalues : ∀ value ∈ configMapNumberWidget, value.Canonical := by
    simp only [configMapNumberWidget, List.forall_mem_cons, Json.Canonical, Json.CanonicalMembers,
      Dict.Ordered]
    refine ⟨?_, trivial, ?_, by simp⟩
    · decide
    · decide
  obtain ⟨rendered, hconvert, hcells, hgranted⟩ : ∃ rendered,
      Scheme.builtin.convert configMapNumberWidget = .ok rendered ∧
        (plan rendered).map PlanEntry.cells =
          [["ConfigMap", "cfg", "-", "would apply"], ["-", "-", "-", "skipped"],
            ["Widget", "-", "prod", "would apply"]] ∧
        ∀ call ∈ exchanges granting rendered (), call.Granted :=
    ⟨_, rfl, rfl, List.all_eq_true.mp rfl⟩
  obtain ⟨-, hannounces, -, hclient⟩ := plan_announces_apply hvalues hconvert
  exact ⟨hvalues, rendered, hconvert, hcells, hannounces, (hclient granting ()).2 hgranted⟩

end Command

end ResourceTemplate

import ResourceTemplate.Proofs.Cluster.Memory
import ResourceTemplate.Proofs.Cluster.Transcript

/-!
# What an apply leaves in a cluster

An apply works through a prefix of its objects and then stops, at the end or at the first object
that fails.  The main statement describes the cluster that it leaves by that prefix alone: under
each key where one of the manifests landed it keeps the last of them, under a version newer than all
those given out before, and under every other key it keeps what it kept before.

A manifest is applied by one write or not at all.  It may get there by a create, by an update, or by
an update of what was read before, possibly under another key than the one written; the write is the
same, since the version that a replacement carries is not kept.
-/

namespace ResourceTemplate.Cluster

/-! ## One manifest -/

/-- A replacement is one write where the object lands, or it fails and changes nothing. -/
theorem replace_memory (cluster : Memory) (id : ResourceId) (sent : Resource) :
    (∃ o, replace Memory.client id sent cluster = (.ok o, cluster.landed sent)) ∨
      ∃ failure, replace Memory.client id sent cluster = (.error failure, cluster) := by
  unfold replace Memory.client
  rcases Memory.update_cases cluster sent with ⟨current, -, -, h⟩ | ⟨current, -, -, -, h⟩ |
      ⟨cause, -, h⟩
  · exact Or.inl ⟨_, by simp only [h]; rfl⟩
  · exact Or.inr ⟨_, by simp only [h]; rfl⟩
  · exact Or.inr ⟨_, by simp only [h]; rfl⟩

/-- A manifest is applied by one write where its resource lands, or it fails and changes nothing. -/
theorem createOrUpdate_memory {cluster : Memory} (hversioned : Memory.Versioned cluster)
    (m : Manifest) :
    (∃ o, createOrUpdate Memory.client m cluster = (.ok o, cluster.landed m.resource)) ∨
      ∃ failure, createOrUpdate Memory.client m cluster = (.error failure, cluster) := by
  have hcreate : Memory.client (.create m.resource) cluster = cluster.create m.resource := rfl
  unfold createOrUpdate
  rw [hcreate]
  rcases Memory.create_cases cluster m.resource with
    ⟨-, h⟩ | ⟨current, message, -, h⟩ | ⟨cause, hcause, h⟩
  · rw [h]
    exact Or.inl ⟨_, rfl⟩
  · rw [h]
    cases htyped : m.typed with
    | true => exact replace_memory cluster m.id m.resource
    | false =>
        have hread : Memory.client (.get m.id) cluster = (cluster.get m.id, cluster) := rfl
        simp only [Bool.false_eq_true, if_false, hread]
        cases hget : cluster.get m.id with
        | error cause => exact Or.inr ⟨_, rfl⟩
        | ok existing =>
            -- What was read carries a version, so it is a stamped object that is sent.
            obtain ⟨n, -, hversion⟩ := hversioned.issued ((Memory.get_eq_ok_iff _ _ _).mp hget)
            have hreplace := replace_memory cluster m.id (replacement m.resource existing)
            rw [replacement_eq_stamp m.resource hversion, Memory.landed_stamp] at hreplace
            simp only [replacement_eq_stamp m.resource hversion]
            exact hreplace
  · rw [h]
    cases cause with
    | alreadyExists message => exact absurd rfl (hcause message)
    | api _ | transport _ | missingType | missingName _ => exact Or.inr ⟨_, rfl⟩

/-! ## One write after the other -/

namespace Memory

/-- The cluster with the resources of manifests written where they land, in order. -/
def landedAll (cluster : Memory) (ms : List Manifest) : Memory :=
  ms.foldl (fun written m => written.landed m.resource) cluster

@[simp] theorem landedAll_nil (cluster : Memory) : cluster.landedAll [] = cluster := rfl

@[simp] theorem landedAll_cons (cluster : Memory) (m : Manifest) (rest : List Manifest) :
    cluster.landedAll (m :: rest) = (cluster.landed m.resource).landedAll rest := rfl

theorem landedAll_append (cluster : Memory) (first second : List Manifest) :
    cluster.landedAll (first ++ second) = (cluster.landedAll first).landedAll second :=
  List.foldl_append

theorem landedAll_issued (cluster : Memory) (ms : List Manifest) :
    (cluster.landedAll ms).issued = cluster.issued + ms.length := by
  induction ms generalizing cluster with
  | nil => rfl
  | cons m rest ih =>
      rw [landedAll_cons, ih, landed_issued, List.length_cons]
      omega

/-- What a write leaves alone, any number of writes leave alone. -/
theorem landedAll_same {α : Type} (part : Memory → α)
    (h : ∀ (written : Memory) (r : Resource), part (written.landed r) = part written)
    (cluster : Memory) (ms : List Manifest) : part (cluster.landedAll ms) = part cluster := by
  induction ms generalizing cluster with
  | nil => rfl
  | cons m rest ih => rw [landedAll_cons, ih, h]

theorem landedAll_default (cluster : Memory) (ms : List Manifest) :
    (cluster.landedAll ms).defaultNamespace? = cluster.defaultNamespace? :=
  landedAll_same defaultNamespace? landed_default cluster ms

/-- A key under which nothing lands keeps what it holds. -/
theorem landedAll_stored_of_ne (cluster : Memory) {ms : List Manifest} {key : Key}
    (h : ∀ m ∈ ms, cluster.landing m.resource ≠ key) :
    (cluster.landedAll ms).stored key = cluster.stored key := by
  induction ms generalizing cluster with
  | nil => rfl
  | cons m rest ih =>
      have hfirst : cluster.landing m.resource ≠ key := h m List.mem_cons_self
      have hrest : ∀ x ∈ rest, (cluster.landed m.resource).landing x.resource ≠ key := by
        intro x hx
        rw [landing_eq_of_default (cluster.landed_default m.resource)]
        exact h x (List.mem_cons_of_mem m hx)
      rw [landedAll_cons, ih _ hrest]
      exact cluster.landed_stored_of_ne m.resource (Ne.symm hfirst)

/-- The key of a manifest after which nothing lands there holds it, under the version of its turn.
-/
theorem landedAll_stored_last (cluster : Memory) (earlier : List Manifest) (m : Manifest)
    {later : List Manifest}
    (h : ∀ x ∈ later, cluster.landing x.resource ≠ cluster.landing m.resource) :
    (cluster.landedAll (earlier ++ m :: later)).stored (cluster.landing m.resource) =
      some (stamp (toString (cluster.issued + earlier.length + 1)) (cluster.place m.resource)) := by
  have hdefault := landedAll_default cluster earlier
  have hlanding : (cluster.landedAll earlier).landing m.resource = cluster.landing m.resource :=
    landing_eq_of_default hdefault m.resource
  -- Where something lands depends on the default namespace only, which no write changes.
  have hlater : ∀ x ∈ later, ((cluster.landedAll earlier).landed m.resource).landing x.resource ≠
      cluster.landing m.resource := by
    intro x hx
    rw [landing_eq_of_default (landed_default _ m.resource), landing_eq_of_default hdefault]
    exact h x hx
  rw [landedAll_append, landedAll_cons, landedAll_stored_of_ne _ hlater, ← hlanding,
    landed_stored_self, nextVersion, landedAll_issued, place_eq_of_default hdefault]

end Memory

/-! ## An apply -/

/-- Where an apply has stopped: it is through with its objects, or the next of them fails and
changes nothing. -/
def Stops (reported : List Outcome) (rest : List RenderedObject) (final : Memory) :
    Except ApplyError (List Outcome) → Prop
  | .ok outcomes => outcomes = reported ∧ rest = []
  | .error e => ∃ object after m phase cause, rest = object :: after ∧ object.manifest? = some m ∧
      createOrUpdate Memory.client m final = (.error (phase, cause), final) ∧
      e = ⟨m.resource.kind, m.version, phase, m.id, cause⟩

/-- An apply writes the manifests of the objects before the first that fails, and nothing else. -/
theorem apply_memory {cluster : Memory} (hversioned : Memory.Versioned cluster)
    (objects : List RenderedObject) :
    ∃ done rest reported, objects = done ++ rest ∧
      apply Memory.client done cluster = (.ok reported, cluster.landedAll (manifests done)) ∧
      reported.length = (manifests done).length ∧
      (apply Memory.client objects cluster).2 = cluster.landedAll (manifests done) ∧
      Stops reported rest (cluster.landedAll (manifests done))
        (apply Memory.client objects cluster).1 := by
  induction objects generalizing cluster with
  | nil => exact ⟨[], [], [], rfl, rfl, rfl, rfl, rfl, rfl⟩
  | cons object after ih =>
      cases hmanifest : object.manifest? with
      | none =>
          obtain ⟨done, rest, reported, rfl, hdone, hlength, hfinal, hstops⟩ := ih hversioned
          refine ⟨object :: done, rest, reported, rfl, ?_⟩
          rw [apply_cons_none _ _ _ hmanifest, apply_cons_none _ _ _ hmanifest,
            manifests_cons_none _ hmanifest]
          exact ⟨hdone, hlength, hfinal, hstops⟩
      | some m =>
          rcases createOrUpdate_memory hversioned m with ⟨first, hfirst⟩ | ⟨⟨phase, cause⟩, hfailed⟩
          · have hnext : Memory.Versioned (cluster.landed m.resource) := hversioned.write _ _
            obtain ⟨done, rest, reported, rfl, hdone, hlength, hfinal, hstops⟩ := ih hnext
            refine ⟨object :: done, rest, first :: reported, rfl, ?_⟩
            rw [apply_cons_ok _ hmanifest hfirst, apply_cons_ok _ hmanifest hfirst,
              manifests_cons_some _ hmanifest, hdone]
            refine ⟨rfl, by rw [List.length_cons, hlength, List.length_cons], hfinal, ?_⟩
            cases hresult : (apply Memory.client (done ++ rest) (cluster.landed m.resource)).1 with
            | ok outcomes =>
                rw [hresult] at hstops
                exact ⟨congrArg (first :: ·) hstops.1, hstops.2⟩
            | error e =>
                rw [hresult] at hstops
                exact hstops
          · -- The object fails without a change, so nothing but what was done before is left.
            refine ⟨[], object :: after, [], rfl, rfl, rfl, ?_⟩
            rw [apply_cons_error _ hmanifest hfailed]
            exact ⟨rfl, object, after, m, phase, cause, rfl, hmanifest, hfailed, rfl⟩

/-- A resource is kept as it is desired, in the namespace where the cluster puts it and under a
version. -/
structure KeptAs (cluster : Memory) (desired : Resource) (version : Nat) (kept : Resource) :
    Prop where
  types : kept.types? = desired.types?
  rest : kept.rest = desired.rest
  version : kept.metadata.fields.find? "resourceVersion" = some (.string (toString version))
  namespaceName : kept.metadata.fields.find? "namespace" =
    if desired.metadata.namespaceName?.isNone ∧ desired.kind ≠ Memory.namespaceKind then
      cluster.defaultNamespace?.map Json.string
    else desired.metadata.fields.find? "namespace"
  fields : ∀ field, field ≠ "resourceVersion" → field ≠ "namespace" →
    kept.metadata.fields.find? field = desired.metadata.fields.find? field

namespace Memory

variable (cluster : Memory) (r : Resource)

theorem place_types : (cluster.place r).types? = r.types? := by
  unfold place
  split
  · rfl
  · rfl

theorem place_rest : (cluster.place r).rest = r.rest := by
  unfold place
  split
  · rfl
  · rfl

theorem find?_place_namespace : (cluster.place r).metadata.fields.find? "namespace" =
    if r.metadata.namespaceName?.isNone ∧ r.kind ≠ namespaceKind then
      cluster.defaultNamespace?.map Json.string
    else r.metadata.fields.find? "namespace" := by
  unfold place
  split
  · exact Metadata.find?_setText_self r.metadata _ _
  · rfl

theorem find?_place_of_ne {field : String} (h : field ≠ "namespace") :
    (cluster.place r).metadata.fields.find? field = r.metadata.fields.find? field := by
  unfold place
  split
  · exact Metadata.find?_setText_of_ne r.metadata _ (Ne.symm h)
  · rfl

theorem find?_stamp_of_ne (version : String) {field : String} (h : field ≠ "resourceVersion") :
    (stamp version r).metadata.fields.find? field = r.metadata.fields.find? field :=
  Metadata.find?_setText_of_ne r.metadata _ (Ne.symm h)

end Memory

theorem keptAs_stamp (cluster : Memory) (desired : Resource) (version : Nat) :
    KeptAs cluster desired version
      (Memory.stamp (toString version) (cluster.place desired)) where
  types := cluster.place_types desired
  rest := cluster.place_rest desired
  version := Metadata.find?_setText_self _ _ _
  namespaceName := by
    rw [Memory.find?_stamp_of_ne _ _ (by decide), Memory.find?_place_namespace]
  fields := by
    intro field hversion hnamespace
    rw [Memory.find?_stamp_of_ne _ _ hversion, Memory.find?_place_of_ne _ _ hnamespace]

/-- What a cluster holds after manifests were applied to it. -/
structure Holds (cluster : Memory) (applied : List Manifest) (final : Memory) : Prop where
  /-- Where manifests landed there is the last of them. -/
  last : ∀ earlier m later, applied = earlier ++ m :: later →
    (∀ x ∈ later, cluster.landing x.resource ≠ cluster.landing m.resource) →
      ∃ kept version, final.stored (cluster.landing m.resource) = some kept ∧
        cluster.issued < version ∧ version ≤ final.issued ∧
        KeptAs cluster m.resource version kept
  /-- Elsewhere there is what was there before. -/
  others : ∀ key, (∀ m ∈ applied, cluster.landing m.resource ≠ key) →
    final.stored key = cluster.stored key
  issued : final.issued = cluster.issued + applied.length
  rejected : final.rejected = cluster.rejected
  defaultNamespace : final.defaultNamespace? = cluster.defaultNamespace?

theorem holds_landedAll (cluster : Memory) (applied : List Manifest) :
    Holds cluster applied (cluster.landedAll applied) where
  last := by
    rintro earlier m later rfl hlater
    refine ⟨_, cluster.issued + earlier.length + 1, cluster.landedAll_stored_last earlier m hlater,
      ?_, ?_, keptAs_stamp cluster m.resource _⟩
    · omega
    · rw [Memory.landedAll_issued, List.length_append, List.length_cons]
      omega
  others := fun _ h => cluster.landedAll_stored_of_ne h
  issued := cluster.landedAll_issued applied
  rejected := Memory.landedAll_same Memory.rejected (fun _ _ => rfl) cluster applied
  defaultNamespace := cluster.landedAll_default applied

/-- Whether it succeeds or fails, an apply leaves the cluster that the objects before the first
failure leave alone.  Wherever their manifests landed, the cluster holds the last of them under a
new version; everything else is as it was before.  The object that fails, and those after it, change
nothing. -/
theorem apply_leaves {cluster : Memory} (hcluster : Memory.Reached cluster)
    (objects : List RenderedObject) :
    let final := (apply Memory.client objects cluster).2
    ∃ done rest reported, objects = done ++ rest ∧
      apply Memory.client done cluster = (.ok reported, final) ∧
      reported.length = (manifests done).length ∧
      Stops reported rest final (apply Memory.client objects cluster).1 ∧
      Holds cluster (manifests done) final := by
  intro final
  obtain ⟨done, rest, reported, hobjects, hdone, hlength, hfinal, hstops⟩ :=
    apply_memory hcluster.versioned objects
  have hholds := holds_landedAll cluster (manifests done)
  rw [← hfinal] at hdone hstops hholds
  exact ⟨done, rest, reported, hobjects, hdone, hlength, hstops, hholds⟩

/-- A manifest of known kind. -/
def settings (name value : String) : Manifest :=
  ⟨true, ⟨some ⟨"v1", "ConfigMap"⟩, ⟨[("name", .string name)]⟩, [("value", .string value)]⟩⟩

/-- A manifest of unknown kind that carries a version and a namespace if there is one. -/
def gadget (namespaceName? : Option String) : Manifest :=
  ⟨false, ⟨some ⟨"example.com/v1", "Gadget"⟩,
    (Metadata.mk [("name", .string "g"), ("resourceVersion", .string "7")]).withNamespace
      namespaceName?, []⟩⟩

/-- A cluster with a default namespace, in which one name is rejected. -/
def shared : Memory :=
  ((Memory.empty ["bad"] (some "team")).seed (gadget (some "team")).resource).2

/-- Objects of which two have one key, one has no manifest and one is rejected. -/
def batch : List RenderedObject :=
  [⟨.null, some (gadget none)⟩, ⟨.null, some (settings "a" "1")⟩, ⟨.null, none⟩,
    ⟨.null, some (settings "a" "2")⟩, ⟨.null, some (settings "bad" "3")⟩,
    ⟨.null, some (settings "b" "4")⟩]

theorem apply_leaves_batch :
    let final := (apply Memory.client batch shared).2
    Memory.Reached shared ∧
      (∃ kept version, final.stored ⟨"Gadget", "g", some "team"⟩ = some kept ∧ 1 < version ∧
        KeptAs shared (gadget none).resource version kept) ∧
      (∃ kept version, final.stored ⟨"ConfigMap", "a", some "team"⟩ = some kept ∧ 1 < version ∧
        KeptAs shared (settings "a" "2").resource version kept) ∧
      final.stored ⟨"ConfigMap", "b", some "team"⟩ = none := by
  intro final
  have hreached : Memory.Reached shared := (Memory.Reached.empty _ _).seed _
  obtain ⟨done, rest, reported, hbatch, -, -, -, hholds⟩ := apply_leaves hreached batch
  -- Three versions were given out, so the first three manifests were applied.
  have hissued : final.issued = shared.issued + (manifests done).length := hholds.issued
  have hcount : (manifests done).length = 3 := by
    have hfour : final.issued = 4 := by decide +kernel
    have hone : shared.issued = 1 := rfl
    omega
  have hsplit : [gadget none, settings "a" "1", settings "a" "2"] ++
      [settings "bad" "3", settings "b" "4"] = manifests done ++ manifests rest := by
    rw [← manifests_append, ← hbatch]
    rfl
  have happlied : manifests done = [gadget none, settings "a" "1", settings "a" "2"] :=
    (List.append_inj hsplit hcount.symm).1.symm
  rw [happlied] at hholds
  refine ⟨hreached, ?_, ?_, ?_⟩
  · obtain ⟨kept, version, hstored, hnewer, -, hkept⟩ := hholds.last [] _ _ rfl (by decide +kernel)
    exact ⟨kept, version, hstored, hnewer, hkept⟩
  · obtain ⟨kept, version, hstored, hnewer, -, hkept⟩ :=
      hholds.last [gadget none, settings "a" "1"] _ [] rfl (by simp)
    exact ⟨kept, version, hstored, hnewer, hkept⟩
  · rw [show final.stored _ = _ from
      hholds.others ⟨"ConfigMap", "b", some "team"⟩ (by decide +kernel)]
    rfl

end ResourceTemplate.Cluster

import ResourceTemplate.Proofs.Cluster.Aftermath

/-!
# Applying again

An apply that succeeds can be repeated.  The second time every object exists already, so each of
them is updated, and the cluster holds in the end what it held before, under new versions.

This needs that a manifest is read back under the key under which it is written, and that its update
does not ask for a version that is gone.  An empty namespace breaks the first and a version on a
typed manifest the second; `Repeatable` excludes both.
-/

namespace ResourceTemplate.Cluster

/-- A manifest that can be applied more than once. -/
structure Repeatable (m : Manifest) : Prop where
  /-- A typed manifest is sent as it is, so it may not ask for a version. -/
  unversioned : m.typed = true → m.resource.metadata.resourceVersion? = none
  /-- The namespace, if there is one, is not the empty text. -/
  namespaceName : m.resource.metadata.namespaceName? ≠ some ""

/-- Two resources differ in nothing but their versions. -/
structure SameButVersion (r s : Resource) : Prop where
  types : r.types? = s.types?
  rest : r.rest = s.rest
  fields : ∀ field, field ≠ "resourceVersion" →
    r.metadata.fields.find? field = s.metadata.fields.find? field

theorem SameButVersion.refl (r : Resource) : SameButVersion r r := ⟨rfl, rfl, fun _ _ => rfl⟩

theorem sameButVersion_stamp (first second : String) (r : Resource) :
    SameButVersion (Memory.stamp first r) (Memory.stamp second r) where
  types := rfl
  rest := rfl
  fields := by
    intro field hfield
    rw [Memory.find?_stamp_of_ne r first hfield, Memory.find?_stamp_of_ne r second hfield]

/-! ## Keys and outcomes -/

namespace Memory

theorem place_name (cluster : Memory) (r : Resource) : (cluster.place r).name = r.name := by
  unfold place
  split
  · have hname : (r.metadata.withNamespace cluster.defaultNamespace?).name? = r.metadata.name? :=
      Metadata.text?_setText_of_ne r.metadata cluster.defaultNamespace? (by decide)
    exact congrArg (·.getD "") hname
  · rfl

/-- Without empty namespaces a manifest is read under the key under which it is written. -/
theorem keyOfId_eq_landing {cluster : Memory} (hdefault : cluster.defaultNamespace? ≠ some "")
    {m : Manifest} (hnamespace : m.resource.metadata.namespaceName? ≠ some "") :
    cluster.keyOfId m.id = cluster.landing m.resource := by
  have hkind : (cluster.place m.resource).kind = m.resource.kind := by
    unfold Resource.kind
    rw [place_types]
  have hfilter : ∀ given : Option String, given ≠ some "" → given.filter (· ≠ "") = given := by
    intro given hgiven
    cases given with
    | none => rfl
    | some ns =>
        have hne : ns ≠ "" := fun h => hgiven (congrArg some h)
        simp [Option.filter, hne]
  have hown : m.resource.namespaceName? = m.resource.metadata.namespaceName? :=
    hfilter _ hnamespace
  have hplaced : (cluster.place m.resource).namespaceName? =
      if m.resource.metadata.namespaceName?.isNone ∧ m.resource.kind ≠ namespaceKind then
        cluster.defaultNamespace?
      else m.resource.metadata.namespaceName? := by
    unfold place
    split
    · -- What is put in is the default namespace, which is not empty either.
      refine Eq.trans (congrArg (Option.filter _) ?_) (hfilter _ hdefault)
      exact Metadata.text?_setText_self m.resource.metadata _ _
    · exact hown
  unfold landing keyOf keyOfId
  rw [hkind, place_name, hplaced]
  simp only [Manifest.id, hown]

end Memory

theorem outcome_stamp (id : ResourceId) (action : Action) (version : String) (r : Resource) :
    outcome id action (Memory.stamp version r) = outcome id action r := by
  have hsame : (Memory.stamp version r).namespaceName? = r.namespaceName? := by
    unfold Memory.stamp Resource.namespaceName?
    rw [Metadata.namespaceName?_withResourceVersion]
  unfold outcome
  rw [hsame]

/-- What is told of a manifest that is updated. -/
def updateOutcome (cluster : Memory) (m : Manifest) : Outcome :=
  outcome m.id .updated (cluster.place m.resource)

theorem updateOutcome_eq_of_default {first second : Memory}
    (h : first.defaultNamespace? = second.defaultNamespace?) :
    updateOutcome first = updateOutcome second := by
  funext m
  rw [updateOutcome, Memory.place_eq_of_default h, updateOutcome]

/-- The action has no influence on the id that is told. -/
theorem outcome_eq_of_id (id : ResourceId) (action other : Action) (live : Resource) :
    outcome id other live = ⟨(outcome id action live).id, other⟩ := by
  unfold outcome
  cases live.namespaceName? <;> rfl

/-! ## One manifest -/

/-- The name under which a manifest lands may be created. -/
def Admitted (cluster : Memory) (m : Manifest) : Prop :=
  cluster.rejected.contains (cluster.landing m.resource).name = false

/-- A manifest that has been applied was admitted, and what is told of it names the place where it
landed. -/
structure Reported (cluster : Memory) (m : Manifest) (o : Outcome) : Prop where
  admitted : Admitted cluster m
  outcome : updateOutcome cluster m = ⟨o.id, .updated⟩

theorem replace_reported {cluster next : Memory} {id : ResourceId} {sent : Resource} {o : Outcome}
    (h : replace Memory.client id sent cluster = (.ok o, next)) :
    o = outcome id .updated (cluster.place sent) := by
  have hrequest : Memory.client (.update sent) cluster = cluster.update sent := rfl
  unfold replace at h
  rw [hrequest] at h
  rcases Memory.update_cases cluster sent with ⟨current, -, -, hupdate⟩ |
      ⟨current, -, -, -, hupdate⟩ | ⟨cause, -, hupdate⟩
  · simp only [hupdate, Prod.mk.injEq, Except.ok.injEq] at h
    rw [← h.1, outcome_stamp]
  · simp [hupdate] at h
  · simp [hupdate] at h

/-- Nothing is created under a rejected name. -/
theorem createOrUpdate_of_rejected {cluster : Memory} {m : Manifest} (h : ¬Admitted cluster m) :
    ∃ failure, createOrUpdate Memory.client m cluster = (.error failure, cluster) := by
  have hrejected : cluster.rejected.contains (Memory.keyOf (cluster.place m.resource)).name = true :=
    Bool.not_eq_false _ ▸ h
  have hrequest : Memory.client (.create m.resource) cluster = cluster.create m.resource := rfl
  unfold createOrUpdate
  rw [hrequest, Memory.create, if_pos hrejected]
  exact ⟨_, rfl⟩

theorem createOrUpdate_reported {cluster next : Memory} (hversioned : Memory.Versioned cluster)
    {m : Manifest} {o : Outcome}
    (h : createOrUpdate Memory.client m cluster = (.ok o, next)) : Reported cluster m o := by
  refine ⟨?_, ?_⟩
  · by_contra hrejected
    obtain ⟨failure, hfailed⟩ := createOrUpdate_of_rejected hrejected
    simp [hfailed] at h
  · have hrequest : Memory.client (.create m.resource) cluster = cluster.create m.resource := rfl
    unfold createOrUpdate at h
    rw [hrequest] at h
    rcases Memory.create_cases cluster m.resource with
      ⟨-, hcreate⟩ | ⟨current, message, -, hcreate⟩ | ⟨cause, hcause, hcreate⟩
    · simp only [hcreate, Prod.mk.injEq, Except.ok.injEq] at h
      rw [← h.1, outcome_stamp, updateOutcome]
      exact outcome_eq_of_id _ _ _ _
    · simp only [hcreate] at h
      cases htyped : m.typed with
      | true =>
          simp only [htyped, if_true] at h
          rw [replace_reported h, updateOutcome]
          exact outcome_eq_of_id _ _ _ _
      | false =>
          have hread : Memory.client (.get m.id) cluster = (cluster.get m.id, cluster) := rfl
          simp only [htyped, Bool.false_eq_true, if_false, hread] at h
          cases hget : cluster.get m.id with
          | error cause => simp [hget] at h
          | ok existing =>
              -- The replacement differs from what is desired by a stamp, which is not told.
              obtain ⟨n, -, hversion⟩ := hversioned.issued ((Memory.get_eq_ok_iff _ _ _).mp hget)
              simp only [hget, replacement_eq_stamp m.resource hversion] at h
              rw [replace_reported h, Memory.place_stamp, outcome_stamp, updateOutcome]
              exact outcome_eq_of_id _ _ _ _
    · cases cause with
      | alreadyExists message => exact absurd rfl (hcause message)
      | api _ | transport _ | missingType | missingName _ => simp [hcreate] at h

/-- A replacement is granted when the cluster holds something there and no other version is asked
for. -/
theorem replace_of_current {cluster : Memory} {sent current : Resource} (id : ResourceId)
    (hstored : cluster.stored (cluster.landing sent) = some current)
    (hversion : sent.metadata.resourceVersion? = none ∨
      current.metadata.resourceVersion? = sent.metadata.resourceVersion?) :
    replace Memory.client id sent cluster =
      (.ok (outcome id .updated (cluster.place sent)), cluster.landed sent) := by
  have hrequest : Memory.client (.update sent) cluster = cluster.update sent := rfl
  unfold replace
  rw [hrequest]
  rcases Memory.update_cases cluster sent with ⟨other, -, -, hupdate⟩ |
      ⟨other, hother, hsome, hne, -⟩ | ⟨cause, hnone, -⟩
  · simp only [hupdate, outcome_stamp]
  · obtain rfl := Option.some.inj (hstored.symm.trans hother)
    rcases hversion with hnone | hsame
    · exact absurd hnone hsome
    · exact absurd hsame hne
  · exact absurd (hstored.symm.trans hnone) (Option.some_ne_none current)

/-- A manifest that is admitted, and whose place is taken, is updated. -/
theorem createOrUpdate_again {cluster : Memory} (hversioned : Memory.Versioned cluster)
    (hdefault : cluster.defaultNamespace? ≠ some "") {m : Manifest} (hrepeatable : Repeatable m)
    (hadmitted : Admitted cluster m)
    (htaken : (cluster.stored (cluster.landing m.resource)).isSome) :
    createOrUpdate Memory.client m cluster =
      (.ok (updateOutcome cluster m), cluster.landed m.resource) := by
  obtain ⟨current, hstored⟩ := Option.isSome_iff_exists.mp htaken
  have hcreate : ∃ message, Memory.client (.create m.resource) cluster =
      (.error (.alreadyExists message), cluster) := by
    have hfree : cluster.rejected.contains (Memory.keyOf (cluster.place m.resource)).name = false :=
      hadmitted
    have hthere : cluster.stored (Memory.keyOf (cluster.place m.resource)) = some current := hstored
    refine ⟨s!"{(Memory.keyOf (cluster.place m.resource)).name} already exists", ?_⟩
    change cluster.create m.resource = _
    simp only [Memory.create, hfree, hthere, Bool.false_eq_true, if_false]
  obtain ⟨message, hexists⟩ := hcreate
  unfold createOrUpdate
  rw [hexists]
  cases htyped : m.typed with
  | true => exact replace_of_current m.id hstored (Or.inl (hrepeatable.unversioned htyped))
  | false =>
      have hread : Memory.client (.get m.id) cluster = (.ok current, cluster) := by
        have hkey := Memory.keyOfId_eq_landing hdefault hrepeatable.namespaceName
        exact congrArg (·, cluster) ((Memory.get_eq_ok_iff _ _ _).mpr (by rw [hkey, hstored]))
      simp only [Bool.false_eq_true, if_false, hread]
      obtain ⟨n, -, hversion⟩ := hversioned.issued hstored
      rw [replacement_eq_stamp m.resource hversion,
        replace_of_current m.id (by rw [Memory.landing_stamp]; exact hstored)
          (Or.inr (by rw [hversion, Memory.stamp_version])),
        Memory.place_stamp, outcome_stamp, Memory.landed_stamp, updateOutcome]

/-! ## One apply and the next -/

theorem Memory.Versioned.landedAll {cluster : Memory} (h : Memory.Versioned cluster)
    (ms : List Manifest) : Memory.Versioned (cluster.landedAll ms) := by
  induction ms generalizing cluster with
  | nil => exact h
  | cons m rest ih => exact ih (h.write _ _)

/-- A place that is taken stays taken when something is written. -/
theorem landed_taken {cluster : Memory} {key : Key} (r : Resource)
    (h : (cluster.stored key).isSome) : ((cluster.landed r).stored key).isSome := by
  by_cases hkey : key = cluster.landing r
  · rw [hkey, Memory.landed_stored_self]
    rfl
  · rw [Memory.landed_stored_of_ne cluster r hkey]
    exact h

theorem landedAll_taken {cluster : Memory} {key : Key} (ms : List Manifest)
    (h : (cluster.stored key).isSome) : ((cluster.landedAll ms).stored key).isSome := by
  induction ms generalizing cluster with
  | nil => exact h
  | cons m rest ih => exact ih (landed_taken m.resource h)

/-- Every place where something was written is taken. -/
theorem taken_of_mem {cluster : Memory} {ms : List Manifest} {m : Manifest} (h : m ∈ ms) :
    ((cluster.landedAll ms).stored (cluster.landing m.resource)).isSome := by
  obtain ⟨before, after, rfl⟩ := List.append_of_mem h
  have hdefault := Memory.landedAll_default cluster before
  rw [Memory.landedAll_append, Memory.landedAll_cons, ← Memory.landing_eq_of_default hdefault]
  exact landedAll_taken after (by rw [Memory.landed_stored_self]; rfl)

/-- An apply that succeeds has written all manifests, each of them admitted and reported. -/
theorem apply_reported {cluster : Memory} (hversioned : Memory.Versioned cluster)
    {objects : List RenderedObject} {outcomes : List Outcome}
    (h : (apply Memory.client objects cluster).1 = .ok outcomes) :
    (apply Memory.client objects cluster).2 = cluster.landedAll (manifests objects) ∧
      (∀ m ∈ manifests objects, Admitted cluster m) ∧
      (manifests objects).map (updateOutcome cluster) = outcomes.map fun o => ⟨o.id, .updated⟩ := by
  induction objects generalizing cluster outcomes with
  | nil =>
      obtain rfl := Except.ok.inj h
      exact ⟨rfl, fun m hm => absurd hm List.not_mem_nil, rfl⟩
  | cons object rest ih =>
      cases hmanifest : object.manifest? with
      | none =>
          rw [apply_cons_none _ rest _ hmanifest] at h ⊢
          rw [manifests_cons_none rest hmanifest]
          exact ih hversioned h
      | some m =>
          rw [manifests_cons_some rest hmanifest]
          rcases createOrUpdate_memory hversioned m with ⟨first, hfirst⟩ | ⟨⟨phase, cause⟩, hfailed⟩
          · rw [apply_cons_ok rest hmanifest hfirst] at h ⊢
            cases hrest : (apply Memory.client rest (cluster.landed m.resource)).1 with
            | error e => simp [hrest, Except.map] at h
            | ok others =>
                simp only [hrest, Except.map, Except.ok.injEq] at h
                subst h
                have hnext : Memory.Versioned (cluster.landed m.resource) := hversioned.write _ _
                obtain ⟨hfinal, hadmitted, hothers⟩ := ih hnext hrest
                have hreported := createOrUpdate_reported hversioned hfirst
                -- Neither the rejected names nor the default namespace are changed by a write.
                refine ⟨hfinal, ?_, ?_⟩
                · intro x hx
                  rcases List.mem_cons.mp hx with rfl | hx
                  · exact hreported.admitted
                  · exact hadmitted x hx
                · rw [List.map_cons, List.map_cons, hreported.outcome]
                  exact congrArg _ hothers
          · rw [apply_cons_error rest hmanifest hfailed] at h
            exact absurd h (by simp)

/-- Where all manifests are admitted and their places are taken, an apply updates each of them. -/
theorem apply_again {cluster : Memory} (hversioned : Memory.Versioned cluster)
    (hdefault : cluster.defaultNamespace? ≠ some "") {objects : List RenderedObject}
    (hready : ∀ m ∈ manifests objects, Repeatable m ∧ Admitted cluster m ∧
      (cluster.stored (cluster.landing m.resource)).isSome) :
    apply Memory.client objects cluster =
      (.ok ((manifests objects).map (updateOutcome cluster)),
        cluster.landedAll (manifests objects)) := by
  induction objects generalizing cluster with
  | nil => rfl
  | cons object rest ih =>
      cases hmanifest : object.manifest? with
      | none =>
          rw [manifests_cons_none rest hmanifest] at hready ⊢
          rw [apply_cons_none _ rest _ hmanifest]
          exact ih hversioned hdefault hready
      | some m =>
          rw [manifests_cons_some rest hmanifest] at hready ⊢
          obtain ⟨hrepeatable, hadmitted, htaken⟩ := hready m List.mem_cons_self
          have hfirst := createOrUpdate_again hversioned hdefault hrepeatable hadmitted htaken
          have hnext : Memory.Versioned (cluster.landed m.resource) := hversioned.write _ _
          have hrest : ∀ x ∈ manifests rest, Repeatable x ∧
              Admitted (cluster.landed m.resource) x ∧
              ((cluster.landed m.resource).stored
                ((cluster.landed m.resource).landing x.resource)).isSome := by
            intro x hx
            obtain ⟨hx1, hx2, hx3⟩ := hready x (List.mem_cons_of_mem m hx)
            exact ⟨hx1, hx2, landed_taken m.resource hx3⟩
          rw [apply_cons_ok rest hmanifest hfirst, ih hnext hdefault hrest]
          rfl

/-- After the same manifests, two clusters hold the same up to versions wherever one of them landed
or where they did so before. -/
theorem landedAll_same_but_version {first second : Memory}
    (hdefault : first.defaultNamespace? = second.defaultNamespace?) (ms : List Manifest) {key : Key}
    (h : (∃ m ∈ ms, first.landing m.resource = key) ∨
      Option.Rel SameButVersion (first.stored key) (second.stored key)) :
    Option.Rel SameButVersion ((first.landedAll ms).stored key)
      ((second.landedAll ms).stored key) := by
  induction ms generalizing first second with
  | nil =>
      rcases h with ⟨m, hm, -⟩ | hsame
      · exact absurd hm List.not_mem_nil
      · exact hsame
  | cons m rest ih =>
      have hnext : (first.landed m.resource).defaultNamespace? =
          (second.landed m.resource).defaultNamespace? := hdefault
      refine ih hnext ?_
      have hlanding := Memory.landing_eq_of_default hdefault m.resource
      by_cases hkey : key = first.landing m.resource
      · -- Both hold the manifest that has just been written.
        refine Or.inr ?_
        rw [hkey, Memory.landed_stored_self, hlanding, Memory.landed_stored_self,
          Memory.place_eq_of_default hdefault]
        exact .some (sameButVersion_stamp _ _ _)
      · rw [Memory.landed_stored_of_ne first m.resource hkey,
          Memory.landed_stored_of_ne second m.resource (by rw [← hlanding]; exact hkey)]
        refine h.imp_left ?_
        rintro ⟨x, hx, hxkey⟩
        rcases List.mem_cons.mp hx with rfl | hx
        · exact absurd hxkey.symm hkey
        · exact ⟨x, hx, hxkey⟩

/-- An apply that succeeds also succeeds the next time.  Then every object is told to be updated,
under the id that was told the first time, and the cluster holds the same under every key as after
the first apply, except for the versions. -/
theorem apply_twice {cluster : Memory} (hcluster : Memory.Reached cluster)
    (hdefault : cluster.defaultNamespace? ≠ some "") {objects : List RenderedObject}
    (hrepeatable : ∀ m ∈ manifests objects, Repeatable m) {outcomes : List Outcome}
    (hfirst : (apply Memory.client objects cluster).1 = .ok outcomes) :
    let first := (apply Memory.client objects cluster).2
    let second := apply Memory.client objects first
    second.1 = .ok (outcomes.map fun o => ⟨o.id, .updated⟩) ∧
      ∀ key, Option.Rel SameButVersion (first.stored key) (second.2.stored key) := by
  intro first second
  have hversioned := hcluster.versioned
  obtain ⟨hfinal, hadmitted, houtcomes⟩ := apply_reported hversioned hfirst
  have hlanded : first = cluster.landedAll (manifests objects) := hfinal
  have hsameDefault : first.defaultNamespace? = cluster.defaultNamespace? := by
    rw [hlanded, Memory.landedAll_default]
  have hsameRejected : first.rejected = cluster.rejected := by
    rw [hlanded]
    exact Memory.landedAll_same Memory.rejected (fun _ _ => rfl) cluster _
  have hready : ∀ m ∈ manifests objects, Repeatable m ∧ Admitted first m ∧
      (first.stored (first.landing m.resource)).isSome := by
    intro m hm
    have hlanding := Memory.landing_eq_of_default hsameDefault m.resource
    refine ⟨hrepeatable m hm, ?_, ?_⟩
    · rw [Admitted, hsameRejected, hlanding]
      exact hadmitted m hm
    · rw [hlanding, hlanded]
      exact taken_of_mem hm
  have hsecond : second = (.ok ((manifests objects).map (updateOutcome first)),
      first.landedAll (manifests objects)) := by
    refine apply_again ?_ (by rw [hsameDefault]; exact hdefault) hready
    rw [hlanded]
    exact hversioned.landedAll _
  refine ⟨?_, ?_⟩
  · rw [hsecond, updateOutcome_eq_of_default hsameDefault, houtcomes]
  · intro key
    have hbefore : (∃ m ∈ manifests objects, cluster.landing m.resource = key) ∨
        Option.Rel SameButVersion (cluster.stored key) (first.stored key) := by
      by_cases hhit : ∃ m ∈ manifests objects, cluster.landing m.resource = key
      · exact Or.inl hhit
      · -- Nothing was written there the first time, so both clusters start with the same.
        refine Or.inr ?_
        push Not at hhit
        rw [hlanded, Memory.landedAll_stored_of_ne cluster hhit]
        cases cluster.stored key with
        | none => exact .none
        | some r => exact .some (SameButVersion.refl r)
    have hafter := landedAll_same_but_version hsameDefault.symm (manifests objects) hbefore
    rw [hsecond]
    rw [← hlanded] at hafter
    exact hafter

/-- Objects of which one exists, two have one key, and one has no manifest. -/
def repeatedBatch : List RenderedObject :=
  [⟨.null, some (gadget none)⟩, ⟨.null, some (settings "a" "1")⟩, ⟨.null, none⟩,
    ⟨.null, some (settings "a" "2")⟩]

/-- The id of a resource in the default namespace of the shared cluster. -/
def teamId (apiVersion kind name : String) : ResourceId := ⟨apiVersion, kind, name, some "team"⟩

theorem apply_twice_repeatedBatch :
    let first := apply Memory.client repeatedBatch shared
    let second := apply Memory.client repeatedBatch first.2
    Memory.Reached shared ∧ shared.defaultNamespace? ≠ some "" ∧
      (∀ m ∈ manifests repeatedBatch, Repeatable m) ∧
      first.1 = .ok [⟨teamId "example.com/v1" "Gadget" "g", .updated⟩,
        ⟨teamId "v1" "ConfigMap" "a", .created⟩, ⟨teamId "v1" "ConfigMap" "a", .updated⟩] ∧
      second.1 = .ok [⟨teamId "example.com/v1" "Gadget" "g", .updated⟩,
        ⟨teamId "v1" "ConfigMap" "a", .updated⟩, ⟨teamId "v1" "ConfigMap" "a", .updated⟩] ∧
      ∀ key, Option.Rel SameButVersion (first.2.stored key) (second.2.stored key) := by
  intro first second
  have hreached : Memory.Reached shared := (Memory.Reached.empty _ _).seed _
  have hdefault : shared.defaultNamespace? ≠ some "" := by decide
  have hrepeatable : ∀ m ∈ manifests repeatedBatch, Repeatable m := by
    intro m hm
    have hcases : m = gadget none ∨ m = settings "a" "1" ∨ m = settings "a" "2" := by
      simpa [manifests, repeatedBatch] using hm
    rcases hcases with rfl | rfl | rfl <;> exact ⟨by decide, by decide⟩
  have hfirst : first.1 = .ok [⟨teamId "example.com/v1" "Gadget" "g", .updated⟩,
      ⟨teamId "v1" "ConfigMap" "a", .created⟩, ⟨teamId "v1" "ConfigMap" "a", .updated⟩] := by
    rfl
  obtain ⟨hsecond, hstored⟩ := apply_twice hreached hdefault hrepeatable hfirst
  exact ⟨hreached, hdefault, hrepeatable, hfirst, hsecond, hstored⟩

end ResourceTemplate.Cluster

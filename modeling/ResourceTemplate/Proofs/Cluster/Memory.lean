import ResourceTemplate.Cluster.Apply
import ResourceTemplate.Cluster.Memory
import ResourceTemplate.Proofs.Metadata

/-!
# The versions of a cluster in memory

Every request either leaves the cluster as it is or writes one resource under one key, with the next
version; `client_cases` says so once for all requests.  From it follows the invariant `Versioned`:
each kept resource carries a version that was given out, and no two keys carry the same one.  It
holds in every cluster that can be reached by seeding and by requests.

A resource is written under the key of its placed form, its landing.  The version that a resource
carries has no influence on where it lands, nor on what is kept in the end.
-/

namespace ResourceTemplate.Cluster

/-- The resource that a request asks to be written. -/
def Request.payload? : Request → Option Resource
  | .create r => some r
  | .update r => some r
  | .get _ => none

namespace Memory

/-- The key under which a resource is written. -/
def landing (cluster : Memory) (r : Resource) : Key := keyOf (cluster.place r)

/-! ## Placing and stamping -/

theorem keyOf_stamp (version : String) (r : Resource) : keyOf (stamp version r) = keyOf r := by
  unfold keyOf stamp Resource.name Resource.namespaceName?
  simp only [Metadata.name?_withResourceVersion, Metadata.namespaceName?_withResourceVersion]
  rfl

theorem stamp_stamp (first second : String) (r : Resource) :
    stamp second (stamp first r) = stamp second r := by
  unfold stamp
  simp only [Metadata.withResourceVersion_withResourceVersion]

@[simp] theorem stamp_version (version : String) (r : Resource) :
    (stamp version r).metadata.resourceVersion? = some version :=
  Metadata.resourceVersion?_withResourceVersion r.metadata _

theorem place_stamp (cluster : Memory) (version : String) (r : Resource) :
    cluster.place (stamp version r) = stamp version (cluster.place r) := by
  have hsame : ((stamp version r).metadata.namespaceName?.isNone ∧
      (stamp version r).kind ≠ namespaceKind) ↔
        (r.metadata.namespaceName?.isNone ∧ r.kind ≠ namespaceKind) := by
    unfold stamp
    rw [Metadata.namespaceName?_withResourceVersion]
    rfl
  by_cases hplaced : r.metadata.namespaceName?.isNone ∧ r.kind ≠ namespaceKind
  · rw [place, if_pos (hsame.mpr hplaced), place, if_pos hplaced]
    simp only [stamp, Metadata.withNamespace_withResourceVersion]
  · rw [place, if_neg (mt hsame.mp hplaced), place, if_neg hplaced]

theorem place_version (cluster : Memory) (r : Resource) :
    (cluster.place r).metadata.resourceVersion? = r.metadata.resourceVersion? := by
  unfold place
  split
  · exact Metadata.resourceVersion?_withNamespace r.metadata _
  · rfl

/-- Where a resource lands does not depend on its version. -/
theorem landing_stamp (cluster : Memory) (version : String) (r : Resource) :
    cluster.landing (stamp version r) = cluster.landing r := by
  rw [landing, place_stamp, keyOf_stamp, landing]

theorem place_eq_of_default {first second : Memory}
    (h : first.defaultNamespace? = second.defaultNamespace?) (r : Resource) :
    first.place r = second.place r := by
  unfold place
  rw [h]

theorem landing_eq_of_default {first second : Memory}
    (h : first.defaultNamespace? = second.defaultNamespace?) (r : Resource) :
    first.landing r = second.landing r := by
  rw [landing, place_eq_of_default h, landing]

/-! ## Writing -/

theorem write_stored_self (cluster : Memory) (key : Key) (r : Resource) :
    (cluster.write key r).2.stored key = some (stamp cluster.nextVersion r) := by
  simp [write]

theorem write_stored_of_ne (cluster : Memory) {key other : Key} (r : Resource)
    (h : other ≠ key) : (cluster.write key r).2.stored other = cluster.stored other := by
  simp [write, h]

/-- What is written is stamped anew, so the version that it came with is lost. -/
theorem write_stamp (cluster : Memory) (key : Key) (version : String) (r : Resource) :
    cluster.write key (stamp version r) = cluster.write key r := by
  unfold write
  rw [stamp_stamp]

/-! ## What a request does -/

/-- The cluster with a resource written where it lands. -/
def landed (cluster : Memory) (r : Resource) : Memory :=
  (cluster.write (cluster.landing r) (cluster.place r)).2

@[simp] theorem landed_issued (cluster : Memory) (r : Resource) :
    (cluster.landed r).issued = cluster.issued + 1 := rfl

@[simp] theorem landed_default (cluster : Memory) (r : Resource) :
    (cluster.landed r).defaultNamespace? = cluster.defaultNamespace? := rfl

theorem landed_stored_self (cluster : Memory) (r : Resource) :
    (cluster.landed r).stored (cluster.landing r) =
      some (stamp cluster.nextVersion (cluster.place r)) :=
  cluster.write_stored_self _ _

theorem landed_stored_of_ne (cluster : Memory) (r : Resource) {key : Key}
    (h : key ≠ cluster.landing r) : (cluster.landed r).stored key = cluster.stored key :=
  cluster.write_stored_of_ne _ h

/-- The version that a resource comes with has no influence on the cluster after its write. -/
theorem landed_stamp (cluster : Memory) (version : String) (r : Resource) :
    cluster.landed (stamp version r) = cluster.landed r := by
  rw [landed, landing_stamp, place_stamp, write_stamp, landed]

/-- The refusal of an update that carries another version than the current one. -/
def conflict : ClientError := status 409 "Conflict" "the object has been modified"

theorem create_cases (cluster : Memory) (r : Resource) :
    (cluster.stored (cluster.landing r) = none ∧ cluster.create r =
        (.ok (stamp cluster.nextVersion (cluster.place r)), cluster.landed r)) ∨
      (∃ current message, cluster.stored (cluster.landing r) = some current ∧
        cluster.create r = (.error (.alreadyExists message), cluster)) ∨
      ∃ cause, (∀ message, cause ≠ .alreadyExists message) ∧
        cluster.create r = (.error cause, cluster) := by
  unfold create
  by_cases hrejected : cluster.rejected.contains (keyOf (cluster.place r)).name = true
  · refine Or.inr (Or.inr ⟨_, ?_, if_pos hrejected⟩)
    intro message
    exact ClientError.noConfusion
  · simp only [hrejected, Bool.false_eq_true, if_false]
    cases hstored : cluster.stored (keyOf (cluster.place r)) with
    | none => exact Or.inl ⟨hstored, rfl⟩
    | some current => exact Or.inr (Or.inl ⟨current, _, hstored, rfl⟩)

theorem update_cases (cluster : Memory) (r : Resource) :
    (∃ current, cluster.stored (cluster.landing r) = some current ∧
        (r.metadata.resourceVersion? = none ∨
          current.metadata.resourceVersion? = r.metadata.resourceVersion?) ∧
        cluster.update r =
          (.ok (stamp cluster.nextVersion (cluster.place r)), cluster.landed r)) ∨
      (∃ current, cluster.stored (cluster.landing r) = some current ∧
        r.metadata.resourceVersion? ≠ none ∧
        current.metadata.resourceVersion? ≠ r.metadata.resourceVersion? ∧
        cluster.update r = (.error conflict, cluster)) ∨
      ∃ cause, cluster.stored (cluster.landing r) = none ∧
        cluster.update r = (.error cause, cluster) := by
  unfold update
  simp only [place_version]
  cases hstored : cluster.stored (keyOf (cluster.place r)) with
  | none => exact Or.inr (Or.inr ⟨_, hstored, rfl⟩)
  | some current =>
      by_cases hstale : r.metadata.resourceVersion?.isSome ∧
          current.metadata.resourceVersion? ≠ r.metadata.resourceVersion?
      · refine Or.inr (Or.inl ⟨current, hstored, ?_, hstale.2, ?_⟩)
        · exact Option.isSome_iff_ne_none.mp hstale.1
        · simp only [if_pos hstale]
          rfl
      · refine Or.inl ⟨current, hstored, ?_, ?_⟩
        · rw [not_and_or, Option.not_isSome_iff_eq_none, not_not] at hstale
          exact hstale
        · simp only [if_neg hstale]
          rfl

theorem get_eq_ok_iff (cluster : Memory) (id : ResourceId) (r : Resource) :
    cluster.get id = .ok r ↔ cluster.stored (cluster.keyOfId id) = some r := by
  unfold get
  cases cluster.stored (cluster.keyOfId id) <;> simp

/-- A request leaves the cluster as it is, unless it is granted a write; then the resource that it
carries is written where it lands. -/
theorem client_cases (request : Request) (cluster : Memory) :
    ((client request cluster).2 = cluster ∧
        ∀ r live, request.payload? = some r → (client request cluster).1 ≠ .ok live) ∨
      ∃ r, request.payload? = some r ∧ client request cluster =
        (.ok (stamp cluster.nextVersion (cluster.place r)), cluster.landed r) := by
  cases request with
  | create r =>
      rcases create_cases cluster r with ⟨-, h⟩ | ⟨current, message, -, h⟩ | ⟨cause, -, h⟩
      · exact Or.inr ⟨r, rfl, h⟩
      · exact Or.inl (by simp [client, h])
      · exact Or.inl (by simp [client, h])
  | get id => exact Or.inl ⟨rfl, by simp [Request.payload?]⟩
  | update r =>
      rcases update_cases cluster r with ⟨current, -, -, h⟩ | ⟨current, -, -, -, h⟩ | ⟨cause, -, h⟩
      · exact Or.inr ⟨r, rfl, h⟩
      · exact Or.inl (by simp [client, h])
      · exact Or.inl (by simp [client, h])

/-! ## Versions -/

/-- Every kept resource carries a version that was given out, and to it alone. -/
structure Versioned (cluster : Memory) : Prop where
  issued : ∀ {key : Key} {r : Resource}, cluster.stored key = some r →
    ∃ n, n ≤ cluster.issued ∧ r.metadata.resourceVersion? = some (toString n)
  distinct : ∀ {key other : Key} {r s : Resource}, cluster.stored key = some r →
    cluster.stored other = some s →
    r.metadata.resourceVersion? = s.metadata.resourceVersion? → key = other

theorem toString_inj {m n : Nat} (h : some (toString m) = some (toString n)) : m = n := by
  have hdigits := congrArg String.toList (Option.some.inj h)
  simp only [Nat.toString_eq_ofList_toDigits, String.toList_ofList] at hdigits
  have hnumber := congrArg (Nat.ofDigitChars 10 · 0) hdigits
  simpa only [Nat.ofDigitChars_ten_toDigits] using hnumber

theorem Versioned.write {cluster : Memory} (h : Versioned cluster) (key : Key) (r : Resource) :
    Versioned (cluster.write key r).2 where
  issued := by
    intro k s hs
    by_cases hk : k = key
    · subst hk
      rw [write_stored_self, Option.some.injEq] at hs
      exact ⟨cluster.issued + 1, le_refl _, by rw [← hs, stamp_version]; rfl⟩
    · rw [write_stored_of_ne cluster r hk] at hs
      obtain ⟨n, hn, hversion⟩ := h.issued hs
      exact ⟨n, Nat.le_succ_of_le hn, hversion⟩
  distinct := by
    -- The version of what is written is newer than that of anything else.
    have hnewer : ∀ {k : Key} {s : Resource}, cluster.stored k = some s →
        s.metadata.resourceVersion? ≠ some cluster.nextVersion := by
      intro k s hs hsame
      obtain ⟨n, hn, hversion⟩ := h.issued hs
      have hnext : n = cluster.issued + 1 := toString_inj (hversion.symm.trans hsame)
      omega
    -- Of two keys, neither, one or both can be the one that is written.
    intro k other s t hs ht hsame
    by_cases hk : k = key
    · by_cases hother : other = key
      · rw [hk, hother]
      · subst hk
        rw [write_stored_self, Option.some.injEq] at hs
        rw [write_stored_of_ne cluster r hother] at ht
        rw [← hs, stamp_version] at hsame
        exact absurd hsame.symm (hnewer ht)
    · by_cases hother : other = key
      · subst hother
        rw [write_stored_of_ne cluster r hk] at hs
        rw [write_stored_self, Option.some.injEq] at ht
        rw [← ht, stamp_version] at hsame
        exact absurd hsame (hnewer hs)
      · rw [write_stored_of_ne cluster r hk] at hs
        rw [write_stored_of_ne cluster r hother] at ht
        exact h.distinct hs ht hsame

theorem Versioned.client {cluster : Memory} (h : Versioned cluster) (request : Request) :
    Versioned (client request cluster).2 := by
  rcases client_cases request cluster with ⟨hsame, -⟩ | ⟨r, -, hwritten⟩
  · rw [hsame]
    exact h
  · rw [hwritten]
    exact h.write _ _

/-- A cluster that can come about: empty at first, then set up, seeded and asked in any order. -/
inductive Reached : Memory → Prop where
  | empty (rejected : List String) (defaultNamespace? : Option String) :
      Reached (empty rejected defaultNamespace?)
  | setUp {cluster : Memory} (before : Reached cluster) (rejected : List String)
      (defaultNamespace? : Option String) : Reached { cluster with rejected, defaultNamespace? }
  | seed {cluster : Memory} (before : Reached cluster) (r : Resource) : Reached (cluster.seed r).2
  | answer {cluster : Memory} (before : Reached cluster) (request : Request) :
      Reached (client request cluster).2

theorem Reached.versioned {cluster : Memory} (h : Reached cluster) : Versioned cluster := by
  induction h with
  | empty rejected defaultNamespace? =>
      exact ⟨fun h => by simp [Memory.empty] at h, fun h => by simp [Memory.empty] at h⟩
  | setUp before rejected defaultNamespace? ih => exact ⟨ih.issued, ih.distinct⟩
  | seed before r ih => exact ih.write _ _
  | answer before request ih => exact ih.client request

end Memory

/-! ## Replacements -/

theorem replacement_version (desired existing : Resource) :
    (replacement desired existing).metadata.resourceVersion? =
      existing.metadata.resourceVersion? :=
  Metadata.resourceVersion?_withResourceVersion _ _

/-- With a version, a replacement is the desired object stamped with it. -/
theorem replacement_eq_stamp {existing : Resource} {version : String} (desired : Resource)
    (h : existing.metadata.resourceVersion? = some version) :
    replacement desired existing = Memory.stamp version desired := by
  rw [replacement, h, Memory.stamp]

end ResourceTemplate.Cluster

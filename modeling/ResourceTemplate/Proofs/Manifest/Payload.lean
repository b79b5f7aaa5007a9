import ResourceTemplate.Proofs.Manifest.Conversion
import ResourceTemplate.Proofs.Schema.NormalForm

/-!
# What a manifest carries

A manifest that is decoded from a value is put together again into that value, except that the
metadata are in normal form.  So nothing is lost outside the metadata, whether or not the registered
types know it, and a value is carried unchanged exactly when its metadata are in normal form
already.  What they do not know of the metadata is lost.

The name and the namespace are the same in the value and in its manifest.
-/

namespace ResourceTemplate

open Document Json

/-! ## Resources taken out of values -/

/-- The value with a member of its own in place of another, when it is an object. -/
def Json.withMember (value : Json) (key : String) (member : Json) : Json :=
  match value with
  | .object members => .object (Dict.insert members key member)
  | other => other

/-- The metadata that a value has, empty when it has none. -/
def Json.givenMetadata (value : Json) : Json := (value.get? "metadata").getD (.object [])

theorem Json.givenMetadata_object (members : Dict Json) :
    (Json.object members).givenMetadata =
      (Dict.find? members "metadata").getD (.object []) := rfl

theorem Json.canonical_givenMetadata {raw : Json} (hraw : raw.Canonical) :
    raw.givenMetadata.Canonical := by
  have hempty : Json.Canonical (.object []) := ⟨List.Pairwise.nil, trivial⟩
  cases raw with
  | null | bool _ | number _ | string _ | array _ => exact hempty
  | object members =>
      rw [givenMetadata_object]
      cases hfind : Dict.find? members "metadata" with
      | none => exact hempty
      | some given => exact hraw.find? hfind

namespace Resource

/-- What has been found of a member, or what is still to be found among entries. -/
def Awaits (found? : Option String) (entries : List (String × Json)) (key text : String) : Prop :=
  match found? with
  | none => Dict.find? entries key = some (.string text)
  | some found => found = text ∧ Dict.find? entries key = none

theorem Awaits.of_cons_ne {found? : Option String} {entries : List (String × Json)}
    {key text other : String} {value : Json} (h : Awaits found? ((other, value) :: entries) key text)
    (hne : other ≠ key) : Awaits found? entries key text := by
  cases found? <;> simpa [Awaits, Dict.find?, hne] using h

theorem Awaits.of_cons_self {found? : Option String} {entries : Dict Json} {key text : String}
    {value : Json} (h : Awaits found? ((key, value) :: entries) key text)
    (hordered : Dict.Ordered ((key, value) :: entries)) :
    found? = none ∧ value = .string text ∧ Awaits (some text) entries key text := by
  have hnone : Dict.find? entries key = none :=
    Dict.find?_eq_none_of_forall_ne fun entry hentry =>
      ne_of_gt ((List.pairwise_cons.mp hordered).1 entry hentry)
  cases found? with
  | none => exact ⟨rfl, by simpa [Awaits, Dict.find?] using h, rfl, hnone⟩
  | some found => exact absurd h.2 (by simp [Dict.find?])

/-- The type that entries state is taken out of them. -/
theorem claimType_eq {entries : Dict Json} (hordered : Dict.Ordered entries)
    {apiVersion? kind? : Option String} {types : TypeMeta}
    (hversion : Awaits apiVersion? entries "apiVersion" types.apiVersion)
    (hkind : Awaits kind? entries "kind" types.kind) :
    claimType apiVersion? kind? entries =
      (some types, (entries.erase "apiVersion").erase "kind") := by
  -- What has been found grows from entry to entry, so it is not fixed in the induction.
  induction entries generalizing apiVersion? kind? with
  | nil =>
      cases apiVersion? with
      | none => exact absurd hversion (by simp [Awaits])
      | some apiVersion =>
          cases kind? with
          | none => exact absurd hkind (by simp [Awaits])
          | some kind =>
              obtain rfl := hversion.1
              obtain rfl := hkind.1
              rfl
  | cons entry rest ih =>
      obtain ⟨key, value⟩ := entry
      have hrest := (List.pairwise_cons.mp hordered).2
      by_cases hkeyVersion : key = "apiVersion"
      · subst hkeyVersion
        obtain ⟨rfl, rfl, hnext⟩ := hversion.of_cons_self hordered
        rw [claimType.eq_def]
        simpa [Dict.erase] using ih hrest hnext (hkind.of_cons_ne (by decide))
      · by_cases hkeyKind : key = "kind"
        · subst hkeyKind
          obtain ⟨rfl, rfl, hnext⟩ := hkind.of_cons_self hordered
          rw [claimType.eq_def]
          simpa [Dict.erase] using ih hrest (hversion.of_cons_ne hkeyVersion) hnext
        · have hothers := ih hrest (hversion.of_cons_ne hkeyVersion) (hkind.of_cons_ne hkeyKind)
          rw [claimType.eq_def]
          simp [Dict.erase, hkeyVersion, hkeyKind, hothers]

/-- Metadata that are read from a value are its normal form. -/
theorem toJson_of_readMetadata {given : Json} {metadata : Metadata} (hgiven : given.Canonical)
    (h : readMetadata (Node.ofJson given) = .ok metadata) :
    metadata.toJson = Schema.normal (.record "ObjectMeta") given := by
  unfold readMetadata at h
  split at h
  next => cases h
  next value hread =>
    obtain rfl := Except.ok.inj h
    obtain rfl := Schema.read_ofJson hgiven hread
    cases given with
    | object members => rfl
    | number n => cases n <;> cases hread
    | null | bool _ | string _ | array _ => cases hread

/-- The metadata of a resource that is read from members, some of which have been read before. -/
def MetadataOf (before? : Option Metadata) (members : Dict Json) (metadata : Metadata) : Prop :=
  match Dict.find? members "metadata" with
  | none => metadata = before?.getD .empty
  | some given => metadata.toJson = Schema.normal (.record "ObjectMeta") given

theorem readEntries_ofMembers {before? : Option Metadata} {before members : Dict Json}
    {r : Resource} (hmembers : CanonicalMembers members) (hordered : Dict.Ordered members)
    (h : readEntries before? before (Node.ofMembers members) = .ok r) :
    let claimed := claimType none none (before ++ members.erase "metadata")
    r.types? = claimed.1 ∧ r.rest = Dict.ofList claimed.2 ∧
      MetadataOf before? members r.metadata := by
  induction members generalizing before? before with
  | nil =>
      obtain rfl := Except.ok.inj h
      simp [Dict.erase, MetadataOf]
  | cons entry rest ih =>
      obtain ⟨key, value⟩ := entry
      obtain ⟨hfirst, hrest⟩ := List.pairwise_cons.mp hordered
      simp only [Node.ofMembers, readEntries, Node.text_string] at h
      split at h
      next => cases h
      next heq =>
        obtain rfl := Except.ok.inj heq
        split at h
        next => cases h
        next =>
          split at h
          next => cases h
          next metadata hread =>
            -- The keys stand in order, so no other metadata follow.
            have hnone : Dict.find? rest "metadata" = none :=
              Dict.find?_eq_none_of_forall_ne fun entry hentry => ne_of_gt (hfirst entry hentry)
            obtain ⟨htypes, hothers, hmetadata⟩ := ih hmembers.2 hrest h
            refine ⟨by simpa [Dict.erase] using htypes, by simpa [Dict.erase] using hothers, ?_⟩
            simp only [MetadataOf, hnone, Option.getD_some] at hmetadata
            simp only [MetadataOf, Dict.find?, if_true, hmetadata]
            exact toJson_of_readMetadata hmembers.1 hread
      next name hne heq =>
        obtain rfl := Except.ok.inj heq
        have hname : key ≠ "metadata" := hne
        simp only [Node.value_ofJson hmembers.1] at h
        simpa [Dict.erase, MetadataOf, Dict.find?, hname] using ih hmembers.2 hrest h

theorem normal_noMetadata :
    Schema.normal (.record "ObjectMeta") (.object []) = .object [] := by
  rfl

/-- A resource is what an object holds, with the metadata in normal form. -/
structure TakenFrom (members : Dict Json) (types : TypeMeta) (r : Resource) : Prop where
  types : r.types? = some types
  metadata : r.metadata.toJson =
    Schema.normal (.record "ObjectMeta") (Json.object members).givenMetadata
  rest : r.rest = ((members.erase "metadata").erase "apiVersion").erase "kind"

/-- A resource is taken from the object that it was read from. -/
theorem takenFrom_of_resourceOf {raw : Json} {types : TypeMeta} {r : Resource}
    (hraw : raw.Canonical) (hstated : Scheme.statedType? raw = some types)
    (h : Scheme.resourceOf raw = .ok r) :
    ∃ members, raw = .object members ∧ TakenFrom members types r := by
  obtain ⟨⟨hversion, -⟩, hkind, -⟩ := Scheme.statedType?_eq_some_iff.mp hstated
  cases raw with
  | null | bool _ | number _ | string _ | array _ => cases hkind
  | object members =>
      have hread : readEntries none [] (Node.ofMembers members) = .ok r := by
        unfold Scheme.resourceOf at h
        split at h
        next found hfound =>
          obtain rfl := Except.ok.inj h
          exact hfound
        next => cases h
      obtain ⟨htypes, hrest, hmetadata⟩ := readEntries_ofMembers hraw.2 hraw.1 hread
      have hordered : Dict.Ordered (Dict.erase members "metadata") := hraw.1.erase "metadata"
      have hawaits : ∀ {key text : String}, "metadata" ≠ key →
          (Json.object members).get? key = some (.string text) →
          Awaits none (Dict.erase members "metadata") key text :=
        fun hne hfind => (Dict.find?_erase_of_ne members hne).trans hfind
      have hclaimed :=
        claimType_eq hordered (hawaits (by decide) hversion) (hawaits (by decide) hkind)
      rw [List.nil_append, hclaimed] at htypes hrest
      refine ⟨members, rfl, htypes, ?_, hrest.trans ((hordered.erase _).erase _).ofList_eq⟩
      rw [Json.givenMetadata_object]
      unfold MetadataOf at hmetadata
      split at hmetadata
      next hnone =>
        rw [hnone, hmetadata]
        exact normal_noMetadata.symm
      next given hgiven =>
        rw [hgiven]
        exact hmetadata

/-- A resource is put together again into the object that it was taken from, with the metadata in
normal form. -/
theorem TakenFrom.toJson {members : Dict Json} {types : TypeMeta} {r : Resource}
    (h : TakenFrom members types r) (hordered : Dict.Ordered members)
    (hstated : Scheme.statedType? (.object members) = some types) :
    r.toJson = .object (members.insert "metadata" r.metadata.toJson) := by
  obtain ⟨⟨hversion, -⟩, hkind, -⟩ := Scheme.statedType?_eq_some_iff.mp hstated
  have hrest : Dict.Ordered r.rest := h.rest ▸ ((hordered.erase _).erase _).erase _
  unfold Resource.toJson
  rw [h.types, Json.object.injEq]
  -- Both dictionaries are ordered, so it is enough to look up every key in them.
  refine Dict.Ordered.ext (Dict.ordered_foldl_insert _ ?_) (hordered.insert _ _) fun key => ?_
  · have hempty : Dict.Ordered ([] : Dict Json) := List.Pairwise.nil
    exact ((hempty.insert _ _).insert _ _).insert _ _
  · rw [Dict.find?_foldl_insert, hrest.ofList_eq, h.rest]
    simp only [Dict.find?_insert, Dict.find?_erase, Dict.find?_nil]
    by_cases hmetadata : "metadata" = key
    · subst hmetadata
      simp
    · by_cases hkeyVersion : "apiVersion" = key
      · subst hkeyVersion
        simpa [get?] using hversion.symm
      · by_cases hkeyKind : "kind" = key
        · subst hkeyKind
          simpa [get?] using hkind.symm
        · simp [hmetadata, hkeyVersion, hkeyKind]

end Resource

namespace Scheme

variable {scheme : Scheme} {raw : Json} {m : Manifest}

/-- What a decoded manifest holds of the value. -/
theorem takenFrom_of_decode (hraw : raw.Canonical) (h : scheme.decode raw = .ok (some m)) :
    ∃ members types, raw = .object members ∧ statedType? raw = some types ∧
      m.resource.TakenFrom members types := by
  obtain ⟨types, hstated, hdecode⟩ := decode_eq_some_iff.mp h
  obtain ⟨-, hresource, -⟩ := decodeStated_eq_ok_iff.mp hdecode
  obtain ⟨members, hmembers, htaken⟩ :=
    Resource.takenFrom_of_resourceOf hraw hstated hresource
  exact ⟨members, types, hmembers, hstated, htaken⟩

/-- A text that the metadata know is the same in a value and in its manifest. -/
theorem text?_of_decode (hraw : raw.Canonical) (h : scheme.decode raw = .ok (some m)) {field : String}
    (hkept : (Schema.recordType "ObjectMeta").kept? field = some .text)
    (halways : field ∉ (Schema.recordType "ObjectMeta").always) :
    m.resource.metadata.text? field = raw.givenMetadata.getString? field := by
  obtain ⟨members, types, rfl, -, htaken⟩ := takenFrom_of_decode hraw h
  have hsame := Schema.getString?_normal (canonical_givenMetadata hraw) hkept halways
  rw [← htaken.metadata] at hsame
  exact hsame

/-- A manifest carries the value that it was decoded from, with the metadata in normal form.  So it
carries the value unchanged, up to empty metadata where there were none, exactly when the metadata
are settled. -/
theorem payload_is_carried (hraw : raw.Canonical) (h : scheme.decode raw = .ok (some m)) :
    m.resource.toJson =
        raw.withMember "metadata" (Schema.normal (.record "ObjectMeta") raw.givenMetadata) ∧
      (m.resource.toJson = raw.withMember "metadata" raw.givenMetadata ↔
        Schema.Settled (.record "ObjectMeta") raw.givenMetadata) := by
  obtain ⟨members, types, rfl, hstated, htaken⟩ := takenFrom_of_decode hraw h
  have hjson : m.resource.toJson = (Json.object members).withMember "metadata"
      (Schema.normal (.record "ObjectMeta") (Json.object members).givenMetadata) := by
    rw [htaken.toJson hraw.1 hstated, htaken.metadata]
    rfl
  refine ⟨hjson, ?_⟩
  rw [hjson, ← Schema.normal_eq_self_iff (canonical_givenMetadata hraw)]
  refine ⟨fun hsame => ?_, fun hnormal => by rw [hnormal]⟩
  -- What stands at the place of the metadata is found there again.
  have hfound := congrArg (Json.get? · "metadata") hsame
  simpa [withMember, get?, Dict.find?_insert_self] using hfound

/-- A config map with some metadata. -/
def configMap (metadata : Dict Json) : Json :=
  .object [("apiVersion", .string "v1"), ("data", .object [("a", .string "b")]),
    ("kind", .string "ConfigMap"), ("metadata", .object metadata)]

/-- A config map whose metadata are not in normal form. -/
def looseConfigMap : Json :=
  configMap [("clusterName", .string "east"),
    ("creationTimestamp", .string "2024-01-01T01:30:00+02:00"), ("name", .string "cfg"),
    ("namespace", .null), ("ownerReferences", .array [.object [("name", .string "tier")]])]

theorem payload_is_carried_looseConfigMap :
    looseConfigMap.Canonical ∧ ∃ m, builtin.decode looseConfigMap = .ok (some m) ∧
      m.resource.toJson = configMap [("creationTimestamp", .string "2023-12-31T23:30:00Z"),
        ("name", .string "cfg"), ("ownerReferences", .array [.object [("apiVersion", .string ""),
          ("kind", .string ""), ("name", .string "tier"), ("uid", .string "")]])] ∧
      ¬Schema.Settled (.record "ObjectMeta") looseConfigMap.givenMetadata := by
  have hraw : looseConfigMap.Canonical := by
    simp only [looseConfigMap, configMap, Canonical, CanonicalMembers, CanonicalItems, Dict.Ordered]
    decide
  obtain ⟨m, hdecode⟩ : ∃ m, builtin.decode looseConfigMap = .ok (some m) :=
    exists_of_isSome (by decide +kernel)
  obtain ⟨hjson, hsettled⟩ := payload_is_carried hraw hdecode
  have htime : Schema.normalTime "2024-01-01T01:30:00+02:00" = "2023-12-31T23:30:00Z" := by
    decide +kernel
  refine ⟨hraw, m, hdecode, hjson.trans ?_, fun h => ?_⟩
  · rw [← htime]
    rfl
  · have hsame := congrArg (fun v => (v.givenMetadata.get? "clusterName").isSome)
      (hjson.symm.trans (hsettled.mpr h))
    exact absurd hsame (by decide +kernel)

/-- A member of the metadata that they do not know is lost, although the kind is known and its
content was checked. -/
theorem unknown_metadata_are_lost :
    ∃ m, builtin.decode (configMap [("clusterName", .string "east"), ("name", .string "cfg")]) =
        .ok (some m) ∧
      m.typed = true ∧ m.resource.toJson = configMap [("name", .string "cfg")] :=
  ⟨_, rfl, rfl, rfl⟩

end Scheme

end ResourceTemplate

import ResourceTemplate.Proofs.Expansion.Descent
import ResourceTemplate.Proofs.Expansion.Label

/-!
# Where a namespace survives

Whether the namespace of an object is kept is decided before its references are replaced, and by the
text alone: it is kept if a reference stands in it, declared or not.  What the object goes through
afterwards does not change that.  A substitution that succeeds resolves the text, one that fails
leaves it, and the merge of labels does not come near it.

Nothing is said here of an object in which a key would be changed, as another member could then take
the place of the metadata or of the namespace.
-/

namespace ResourceTemplate.Expansion

/-- No key is changed when values are put in it. -/
def KeepsKeys (values : Dict String) (members : Dict Json) : Prop :=
  ∀ entry ∈ members, substituteText values entry.1 = entry.1

section Substitution

variable {values : Dict String} {members fields : Dict Json} {done : Json}

/-- Where no key changes, each member is substituted in its place. -/
theorem rel_get?_of_substitute (hordered : members.Ordered) (hkeys : KeepsKeys values members)
    (h : substitute values (.object members) = .ok done) (key : String) :
    Option.Rel (fun value done => substitute values value = .ok done) (members.find? key)
      (done.get? key) := by
  rw [substitute] at h
  obtain ⟨found, hmembers, rfl⟩ := exists_of_map_eq_ok h
  have hpairs : List.Forall₂ (fun member entry => entry.1 = member.1 ∧
      substitute values member.2 = .ok entry.2) members found := by
    refine List.forall₂_iff_get.mpr ?_
    have hfound := List.forall₂_iff_get.mp (forall₂_of_substituteMembers hmembers)
    refine ⟨hfound.1, fun i hi hi' => ⟨?_, (hfound.2 i hi hi').2⟩⟩
    rw [(hfound.2 i hi hi').1, hkeys _ (List.get_mem _ _)]
  have hfoundKeys : found.map Prod.fst = members.map Prod.fst :=
    (substituted_of_substituteMembers hmembers).1.trans (List.map_congr_left hkeys)
  have hfoundOrdered : Dict.Ordered found := by
    have hsorted : (members.map Prod.fst).Pairwise (· < ·) := List.pairwise_map.mpr hordered
    rw [← hfoundKeys] at hsorted
    exact List.pairwise_map.mp hsorted
  rw [Json.get?, hfoundOrdered.ofList_eq]
  exact Dict.rel_find?_of_forall₂ hpairs key

/-- Where no key changes, each field of the metadata is substituted in its place. -/
theorem rel_metadataField?_of_substitute (hcanonical : (Json.object members).Canonical)
    (hmetadata : members.find? "metadata" = some (.object fields)) (hkeys : KeepsKeys values members)
    (hfields : KeepsKeys values fields) (h : substitute values (.object members) = .ok done)
    (field : String) :
    Option.Rel (fun value done => substitute values value = .ok done) (fields.find? field)
      (metadataField? done field) := by
  have hrel := rel_get?_of_substitute hcanonical.1 hkeys h "metadata"
  rw [hmetadata] at hrel
  unfold metadataField?
  generalize done.get? "metadata" = found at hrel ⊢
  cases hrel with
  | some hsubstituted =>
      exact rel_get?_of_substitute (hcanonical.find? hmetadata).1 hfields hsubstituted field

/-- A text with a reference in it comes to a text. -/
theorem substitute_of_reference {text : String} {name : List Char} (hname : IsName name)
    (hwithin : referenceChars name <:+: text.toList) :
    substitute values (.string text) = .ok (.string (substituteText values text)) := by
  have hevaluate : evaluate values text = .text (resolveText values text) := by
    rw [evaluate, dataReference?_eq_none hname hwithin, Option.bind_none]
  rw [substitute, substituteString, substituteText, hevaluate]

end Substitution

/-! ## Through the steps of an object -/

section Steps

variable {values labels : Dict String} {members fields : Dict Json} {kind : String}

theorem metadataField?_labelObject (labels : Dict String) (object : Json) {field : String}
    (hfield : field ≠ "labels") :
    metadataField? (labelObject labels object).1 field = metadataField? object field := by
  unfold labelObject
  split
  next hmerged => exact (frame_of_mergeLabels hmerged).2 field hfield
  next => rfl

/-- The namespace that an object has in the end is the one that it has after its references have
been replaced. -/
theorem namespace_expandObject {object : Json} (hkind : object.getString? "kind" = some kind) :
    metadataField? (expandObject values labels object).1 "namespace" =
      metadataField? (substituteObject values (stripNamespace object)).1 "namespace" := by
  simp only [expandObject, hkind]
  exact metadataField?_labelObject labels _ (by decide)

theorem metadataField?_of_find? (hmetadata : members.find? "metadata" = some (.object fields))
    (field : String) : metadataField? (.object members) field = fields.find? field := by
  rw [metadataField?, Json.get?, hmetadata]
  rfl

/-- A namespace with a reference in it is kept; it is resolved when the object can be substituted
in. -/
theorem namespace_of_reference (hcanonical : (Json.object members).Canonical)
    (hmetadata : members.find? "metadata" = some (.object fields)) (hkeys : KeepsKeys values members)
    (hfields : KeepsKeys values fields) {text : String} {name : List Char}
    (hnamespace : fields.find? "namespace" = some (.string text)) (hname : IsName name)
    (hwithin : referenceChars name <:+: text.toList) :
    metadataField? (substituteObject values (stripNamespace (.object members))).1 "namespace" =
      some (.string (if (substitute values (.object members)).isOk then substituteText values text
        else text)) := by
  have hstrip : stripNamespace (.object members) = .object members := by
    have hparameterized := (isParameterized_iff (fields.find? "namespace")).mpr
      ⟨text, name, hnamespace, hname, hwithin⟩
    simp only [stripNamespace, hmetadata, hparameterized, if_true]
  rw [hstrip, substituteObject]
  split
  next done hdone =>
    have hrel :=
      rel_metadataField?_of_substitute hcanonical hmetadata hkeys hfields hdone "namespace"
    rw [hnamespace] at hrel
    generalize metadataField? done "namespace" = found at hrel ⊢
    cases hrel with
    | some hvalue =>
        rw [substitute_of_reference hname hwithin] at hvalue
        rw [← Except.ok.inj hvalue, hdone]
        rfl
  next cause hfailed =>
    rw [metadataField?_of_find? hmetadata, hnamespace, hfailed]
    rfl

/-- Any other namespace is lost. -/
theorem namespace_of_no_reference (hcanonical : (Json.object members).Canonical)
    (hmetadata : members.find? "metadata" = some (.object fields)) (hkeys : KeepsKeys values members)
    (hfields : KeepsKeys values fields) (hnone : ¬RefersInNamespace (.object members)) :
    metadataField? (substituteObject values (stripNamespace (.object members))).1 "namespace" =
      none := by
  rw [refersInNamespace_iff hmetadata] at hnone
  have hstrip : stripNamespace (.object members) =
      .object (Dict.insert members "metadata" (.object (Dict.erase fields "namespace"))) := by
    simp only [stripNamespace, hmetadata, hnone]
    rfl
  have hstripped : (stripNamespace (.object members)).Canonical :=
    canonical_stripNamespace hcanonical
  have hfound : (Dict.insert members "metadata" (.object (Dict.erase fields "namespace"))).find?
      "metadata" = some (.object (Dict.erase fields "namespace")) := Dict.find?_insert_self _ _ _
  have hstrippedKeys : KeepsKeys values
      (Dict.insert members "metadata" (.object (Dict.erase fields "namespace"))) := by
    intro entry hentry
    rcases Dict.eq_or_mem_of_mem_insert hentry with rfl | hentry
    · exact hkeys ("metadata", .object fields) (Dict.mem_of_find? hmetadata)
    · exact hkeys entry hentry
  have hstrippedFields : KeepsKeys values (Dict.erase fields "namespace") :=
    fun entry hentry => hfields entry (List.mem_filter.mp hentry).1
  rw [hstrip] at hstripped ⊢
  rw [substituteObject]
  split
  next done hdone =>
    have hrel :=
      rel_metadataField?_of_substitute hstripped hfound hstrippedKeys hstrippedFields hdone
      "namespace"
    rw [Dict.find?_erase_self] at hrel
    generalize metadataField? done "namespace" = found at hrel ⊢
    cases hrel with
    | none => rfl
  next => rw [metadataField?_of_find? hfound, Dict.find?_erase_self]

end Steps

/-- The namespace of an object with a kind is there after its step exactly if it was a text with a
reference in it.  It is that text then, resolved if the object could be substituted in and otherwise
as it was.  A reference to data as a whole is no such text.  The labels have no part in any of this.
-/
theorem namespace_after_expansion (values labels : Dict String) {members fields : Dict Json}
    {kind : String} (hcanonical : (Json.object members).Canonical)
    (hkind : (Json.object members).getString? "kind" = some kind)
    (hmetadata : members.find? "metadata" = some (.object fields)) (hkeys : KeepsKeys values members)
    (hfields : KeepsKeys values fields) :
    let after := metadataField? (expandObject values labels (.object members)).1 "namespace"
    (after.isSome ↔ RefersInNamespace (.object members)) ∧
    (∀ text name, fields.find? "namespace" = some (.string text) → IsName name →
      referenceChars name <:+: text.toList →
        (∀ done, substitute values (.object members) = .ok done →
          after = some (.string (substituteText values text))) ∧
        ∀ cause, substitute values (.object members) = .error cause → after = some (.string text)) ∧
    (∀ name, IsName name →
      fields.find? "namespace" = some (.string (String.ofList (dataReferenceChars name))) →
        after = none) ∧
    ∀ object merged, mergeLabels labels object = .ok merged →
      metadataField? merged "namespace" = metadataField? object "namespace" := by
  intro after
  have hafter : after = metadataField? (substituteObject values
      (stripNamespace (.object members))).1 "namespace" := namespace_expandObject hkind
  have hkept : ∀ text name, fields.find? "namespace" = some (.string text) → IsName name →
      referenceChars name <:+: text.toList →
        after = some (.string (if (substitute values (.object members)).isOk then
          substituteText values text else text)) := fun text name hnamespace hname hwithin =>
    hafter.trans (namespace_of_reference hcanonical hmetadata hkeys hfields hnamespace hname hwithin)
  have hlost : ¬RefersInNamespace (.object members) → after = none := fun hnone =>
    hafter.trans (namespace_of_no_reference hcanonical hmetadata hkeys hfields hnone)
  refine ⟨⟨fun hsome => ?_, ?_⟩, fun text name hnamespace hname hwithin => ⟨?_, ?_⟩,
    fun name hname hdata => hlost ?_, fun object merged h => (frame_of_mergeLabels h).2 _ (by decide)⟩
  · by_contra hnone
    rw [hlost hnone] at hsome
    exact absurd hsome (by simp)
  · rintro ⟨metadata, text, name, hget, hnamespace, hname, hwithin⟩
    obtain rfl := Option.some.inj (hmetadata.symm.trans hget)
    rw [hkept text name hnamespace hname hwithin]
    rfl
  · intro done hdone
    rw [hkept text name hnamespace hname hwithin, hdone]
    rfl
  · intro cause hfailed
    rw [hkept text name hnamespace hname hwithin, hfailed]
    rfl
  · rintro ⟨metadata, text, other, hget, hnamespace, hother, hwithin⟩
    obtain rfl := Option.some.inj (hmetadata.symm.trans hget)
    obtain rfl := Json.string.inj (Option.some.inj (hdata.symm.trans hnamespace))
    -- A text that refers to data as a whole has no reference in it.
    have hnone := dataReference?_eq_none hother hwithin
    rw [String.toList_ofList, dataReference?_eq_some.mpr ⟨hname, rfl⟩] at hnone
    exact absurd hnone (by simp)

/-- The metadata of an object whose namespace refers to a declared and to an undeclared name. -/
def halfDeclared : Dict Json :=
  [("labels", .null), ("namespace", .string "$\x7bA\x7d-$\x7bB\x7d")]

/-- An object with that metadata. -/
def placedObject (spec : Json) : Dict Json :=
  [("kind", .string "Pod"), ("metadata", .object halfDeclared), ("spec", spec)]

theorem canonical_placedObject (text : String) :
    (Json.object (placedObject (.string text))).Canonical := by
  have hkind : ∀ entry ∈ [("metadata", Json.object halfDeclared), ("spec", .string text)],
      "kind" < entry.1 := by
    intro entry hentry
    simp only [List.mem_cons, List.not_mem_nil, or_false] at hentry
    rcases hentry with rfl | rfl
    · exact (by decide : "kind" < "metadata")
    · exact (by decide : "kind" < "spec")
  have hspec : "metadata" < "spec" := by decide
  exact ⟨List.pairwise_cons.mpr ⟨hkind, List.pairwise_pair.mpr hspec⟩, trivial,
    ⟨List.pairwise_pair.mpr (by decide), trivial, trivial, trivial⟩, trivial, trivial⟩

/-- The namespace is resolved in an object that can be substituted in, and kept in one that cannot
be. -/
theorem namespace_after_expansion_placedObject :
    (Json.object (placedObject (.string "$\x7bA\x7d"))).Canonical ∧
      (Json.object (placedObject (.string "$\x7b\x7bA\x7d\x7d"))).Canonical ∧
      metadataField? (expandObject [("A", "x")] [("app", "web")]
        (.object (placedObject (.string "$\x7bA\x7d")))).1 "namespace" =
          some (.string "x-$\x7bB\x7d") ∧
      metadataField? (expandObject [("A", "x")] [("app", "web")]
        (.object (placedObject (.string "$\x7b\x7bA\x7d\x7d")))).1 "namespace" =
          some (.string "$\x7bA\x7d-$\x7bB\x7d") := by
  have hfields : KeepsKeys [("A", "x")] halfDeclared := by
    intro entry hentry
    simp only [halfDeclared, List.mem_cons, List.not_mem_nil, or_false] at hentry
    rcases hentry with rfl | rfl <;> decide +kernel
  have hkeys : ∀ spec, KeepsKeys [("A", "x")] (placedObject spec) := by
    intro spec entry hentry
    simp only [placedObject, List.mem_cons, List.not_mem_nil, or_false] at hentry
    have hkept : ∀ key ∈ ["kind", "metadata", "spec"], substituteText [("A", "x")] key = key := by
      decide +kernel
    rcases hentry with rfl | rfl | rfl <;> exact hkept _ (by simp)
  have hwithin : referenceChars ['A'] <:+: "$\x7bA\x7d-$\x7bB\x7d".toList := by decide
  refine ⟨canonical_placedObject _, canonical_placedObject _, ?_, ?_⟩
  · obtain ⟨-, hkept, -, -⟩ := namespace_after_expansion [("A", "x")] [("app", "web")]
      (canonical_placedObject "$\x7bA\x7d") rfl rfl (hkeys _) hfields
    have hdone : substitute [("A", "x")] (.object (placedObject (.string "$\x7bA\x7d"))) =
        .ok (.object [("kind", .string "Pod"), ("metadata", .object [("labels", .null),
          ("namespace", .string "x-$\x7bB\x7d")]), ("spec", .string "x")]) := by
      decide +kernel
    refine ((hkept _ ['A'] rfl (by decide) hwithin).1 _ hdone).trans ?_
    exact congrArg (fun text => some (Json.string text)) (by decide +kernel)
  · obtain ⟨-, hkept, -, -⟩ := namespace_after_expansion [("A", "x")] [("app", "web")]
      (canonical_placedObject "$\x7b\x7bA\x7d\x7d") rfl rfl (hkeys _) hfields
    have herror : substitute [("A", "x")] (.object (placedObject (.string "$\x7b\x7bA\x7d\x7d"))) =
        .error ⟨"x", "$\x7b\x7bA\x7d\x7d", ⟨.expectedValue, ⟨1, 1⟩⟩⟩ := by
      decide +kernel
    exact (hkept _ ['A'] rfl (by decide) hwithin).2 _ herror

end ResourceTemplate.Expansion

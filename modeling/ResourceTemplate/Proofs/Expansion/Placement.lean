import ResourceTemplate.Expansion.Placement
import ResourceTemplate.Proofs.Expansion.Substitution

/-!
# Namespaces and labels of canonical objects

An object loses its namespace, and nothing else, unless the namespace is a text with a reference in
it.

An object into which labels have been merged has each of them.  It keeps them when it loses its
namespace, and merging them into it again changes nothing.
-/

namespace ResourceTemplate

namespace Json

/-- A value without one of its members. -/
def without (key : String) : Json → Json
  | object members => object (Dict.erase members key)
  | other => other

/-- Change a member of a value, if it has that member. -/
def modify (key : String) (f : Json → Json) : Json → Json
  | object members =>
      object (members.map fun entry => if entry.1 = key then (entry.1, f entry.2) else entry)
  | other => other

theorem texts_without (key : String) (value : Json) {text : String}
    (h : text ∈ (value.without key).texts) : text ∈ value.texts := by
  cases value with
  | object members =>
      obtain ⟨entry, hentry, htext⟩ := mem_textsOfMembers.mp h
      exact mem_textsOfMembers.mpr ⟨entry, (List.mem_filter.mp hentry).1, htext⟩
  | null | bool _ | number _ | string _ | array _ => exact h

end Json

namespace Expansion

/-! ## Namespaces -/

/-- Whether an object names its namespace by a text with a reference in it. -/
def RefersInNamespace (object : Json) : Prop :=
  ∃ metadata text name, object.get? "metadata" = some metadata ∧
    metadata.get? "namespace" = some (.string text) ∧ IsName name ∧ referenceChars name <:+: text.toList

/-- An object without the namespace in its metadata. -/
def withoutNamespace (object : Json) : Json := object.modify "metadata" (·.without "namespace")

theorem isParameterized_iff (value? : Option Json) :
    isParameterized value? = true ↔ ∃ text name, value? = some (.string text) ∧ IsName name ∧
      referenceChars name <:+: text.toList := by
  unfold isParameterized
  split
  next text =>
    rw [hasReference_iff]
    constructor
    · rintro ⟨name, hname⟩
      exact ⟨text, name, rfl, hname⟩
    · rintro ⟨other, name, hother, hname⟩
      obtain rfl := Json.string.inj (Option.some.inj hother)
      exact ⟨name, hname⟩
  next hno =>
    refine ⟨fun h => absurd h (by simp), ?_⟩
    rintro ⟨text, name, htext, -⟩
    exact absurd htext (hno text)

theorem refersInNamespace_iff {members fields : Dict Json}
    (hmetadata : members.find? "metadata" = some (.object fields)) :
    RefersInNamespace (.object members) ↔ isParameterized (fields.find? "namespace") = true := by
  rw [isParameterized_iff]
  constructor
  · rintro ⟨metadata, text, name, hget, hnamespace, hname⟩
    obtain rfl := Option.some.inj (hmetadata.symm.trans hget)
    exact ⟨text, name, hnamespace, hname⟩
  · rintro ⟨text, name, hnamespace, hname⟩
    exact ⟨.object fields, text, name, hmetadata, hnamespace, hname⟩

theorem withoutNamespace_of_find? {members : Dict Json} (hordered : members.Ordered) {metadata : Json}
    (hmetadata : members.find? "metadata" = some metadata) :
    withoutNamespace (.object members) =
      .object (members.insert "metadata" (metadata.without "namespace")) :=
  congrArg Json.object (hordered.map_eq_insert hmetadata (·.without "namespace"))

/-- An object whose metadata is no map has no namespace to lose. -/
theorem withoutNamespace_of_not_map {members : Dict Json} (hordered : members.Ordered)
    (h : ∀ fields, members.find? "metadata" ≠ some (.object fields)) :
    ¬RefersInNamespace (.object members) ∧
      withoutNamespace (.object members) = .object members := by
  constructor
  · rintro ⟨metadata, text, name, hmetadata, hnamespace, -⟩
    cases metadata with
    | object fields => exact h fields hmetadata
    | null | bool _ | number _ | string _ | array _ => exact absurd hnamespace (by simp [Json.get?])
  · cases hmetadata : Dict.find? members "metadata" with
    | none =>
        have hothers : ∀ entry ∈ members, (if entry.1 = "metadata" then
            (entry.1, Json.without "namespace" entry.2) else entry) = entry :=
          fun entry hentry => if_neg (Dict.fst_ne_of_find?_eq_none hmetadata hentry)
        rw [withoutNamespace, Json.modify, List.map_congr_left hothers, List.map_id']
    | some metadata =>
        rw [withoutNamespace_of_find? hordered hmetadata]
        have hsame : metadata.without "namespace" = metadata := by
          cases metadata with
          | object fields => exact absurd hmetadata (h fields)
          | null | bool _ | number _ | string _ | array _ => rfl
        rw [hsame, hordered.insert_of_find? hmetadata]

/-- A canonical object that refers to a name in its namespace keeps it, and any other loses it. -/
theorem stripNamespace_cases {object : Json} (h : object.Canonical) :
    RefersInNamespace object ∧ stripNamespace object = object ∨
      ¬RefersInNamespace object ∧ stripNamespace object = withoutNamespace object := by
  cases object with
  | object members =>
      by_cases hmap : ∃ fields, Dict.find? members "metadata" = some (.object fields)
      · obtain ⟨fields, hmetadata⟩ := hmap
        rw [refersInNamespace_iff hmetadata, withoutNamespace_of_find? h.1 hmetadata]
        simp only [stripNamespace, hmetadata]
        by_cases hparameterized : isParameterized (Dict.find? fields "namespace") = true
        · exact Or.inl ⟨hparameterized, if_pos hparameterized⟩
        · exact Or.inr ⟨hparameterized, if_neg hparameterized⟩
      · have hno : ∀ fields, Dict.find? members "metadata" ≠ some (.object fields) :=
          fun fields hfields => hmap ⟨fields, hfields⟩
        obtain ⟨hnot, hsame⟩ := withoutNamespace_of_not_map h.1 hno
        refine Or.inr ⟨hnot, ?_⟩
        rw [hsame, stripNamespace]
        split
        next fields hfields => exact absurd hfields (hno fields)
        next => rfl
  | null | bool _ | number _ | string _ | array _ =>
      refine Or.inr ⟨?_, rfl⟩
      rintro ⟨metadata, text, name, hmetadata, -⟩
      exact absurd hmetadata (by simp [Json.get?])

theorem canonical_stripNamespace {object : Json} (h : object.Canonical) :
    (stripNamespace object).Canonical := by
  unfold stripNamespace
  split
  next members =>
    split
    next fields hmetadata =>
      split
      · exact h
      · exact h.insert "metadata" ((h.find? hmetadata).erase "namespace")
    · exact h
  · exact h

theorem texts_stripNamespace {object : Json} {text : String}
    (h : text ∈ (stripNamespace object).texts) : text ∈ object.texts := by
  unfold stripNamespace at h
  split at h
  next members =>
    split at h
    next fields hmetadata =>
      split at h
      · exact h
      · obtain ⟨entry, hentry, htext⟩ := Json.mem_textsOfMembers.mp h
        rcases Dict.eq_or_mem_of_mem_insert hentry with rfl | hentry
        · -- The metadata that is put back has no texts but those that it had.
          have hfound := Dict.mem_of_find? hmetadata
          refine Json.mem_textsOfMembers.mpr ⟨("metadata", .object fields), hfound, ?_⟩
          exact htext.imp_right (Json.texts_without "namespace" (.object fields))
        · exact Json.mem_textsOfMembers.mpr ⟨entry, hentry, htext⟩
    · exact h
  · exact h

/-! ## Labels -/

/-- Whether an object has each of some labels.  When there are none it need not even be a map. -/
def Labelled (labels : Dict String) (object : Json) : Prop :=
  labels = [] ∨ ∃ members metadata own : Dict Json, object = .object members ∧
    members.find? "metadata" = some (.object metadata) ∧ metadata.find? "labels" = some (.object own) ∧
    ∀ label ∈ labels, own.find? label.1 = some (.string label.2)

theorem overlay_concat (labels : Dict String) (label : String × String) (entries : Dict Json) :
    overlay (labels ++ [label]) entries =
      (overlay labels entries).insert label.1 (.string label.2) := by
  unfold overlay
  rw [List.foldl_append]
  rfl

/-- Under a key lies the last label of that key, or else what lay there before. -/
theorem find?_overlay_ofList (labels : List (String × String)) (entries : Dict Json)
    (key : String) : (overlay labels entries).find? key =
      ((Dict.find? (Dict.ofList labels) key).map Json.string).or (entries.find? key) := by
  induction labels using List.reverseRecOn with
  | nil => simp [overlay, Dict.ofList]
  | append_singleton labels last ih =>
      rw [overlay_concat, Dict.find?_insert, Dict.find?_ofList_concat, ih]
      split <;> rfl

/-- Labels that lie over the entries of a map are found in it. -/
theorem find?_overlay {labels : Dict String} (hordered : labels.Ordered) (entries : Dict Json)
    {label : String × String} (hlabel : label ∈ labels) :
    (overlay labels entries).find? label.1 = some (.string label.2) := by
  rw [find?_overlay_ofList, hordered.ofList_eq, hordered.find?_of_mem hlabel]
  rfl

/-- Labels that a map has already change nothing when they are put over its entries. -/
theorem overlay_of_find? {labels : Dict String} {entries : Dict Json} (hordered : entries.Ordered)
    (h : ∀ label ∈ labels, entries.find? label.1 = some (.string label.2)) :
    overlay labels entries = entries := by
  induction labels using List.reverseRecOn with
  | nil => rfl
  | append_singleton labels last ih =>
      rw [overlay_concat, ih fun label hlabel => h label (List.mem_append_left _ hlabel)]
      exact hordered.insert_of_find? (h last (List.mem_append_right _ (List.mem_singleton.mpr rfl)))

theorem canonical_overlay (labels : Dict String) {entries : Dict Json}
    (h : Json.Canonical (.object entries)) : Json.Canonical (.object (overlay labels entries)) := by
  induction labels using List.reverseRecOn with
  | nil => exact h
  | append_singleton labels last ih =>
      rw [overlay_concat]
      exact ih.insert last.1 trivial

theorem canonical_of_mapOrEmpty? {value? : Option Json} {found : Dict Json}
    (h : ∀ value, value? = some value → value.Canonical) (hfound : mapOrEmpty? value? = some found) :
    Json.Canonical (.object found) := by
  unfold mapOrEmpty? at hfound
  split at hfound
  · obtain rfl := Option.some.inj hfound
    exact ⟨List.Pairwise.nil, trivial⟩
  · obtain rfl := Option.some.inj hfound
    exact h _ rfl
  · exact absurd hfound (by simp)

theorem canonical_of_ownLabels? {metadata own : Dict Json} (h : Json.Canonical (.object metadata))
    (hown : ownLabels? metadata = some own) : Json.Canonical (.object own) := by
  unfold ownLabels? at hown
  split at hown
  · obtain rfl := Option.some.inj hown
    exact ⟨List.Pairwise.nil, trivial⟩
  · exact canonical_of_mapOrEmpty? (fun value hvalue => h.find? hvalue) hown

/-- What a merge of labels has made of an object. -/
theorem mergeLabels_cases {labels : Dict String} {object merged : Json}
    (h : mergeLabels labels object = .ok merged) :
    labels = [] ∧ merged = object ∨ ∃ members metadata own : Dict Json, object = .object members ∧
      mapOrEmpty? (members.find? "metadata") = some metadata ∧ ownLabels? metadata = some own ∧
      merged = .object (members.insert "metadata"
        (.object (metadata.insert "labels" (.object (overlay labels own))))) := by
  unfold mergeLabels at h
  split at h
  next hempty =>
    obtain rfl := Except.ok.inj h
    exact Or.inl ⟨List.isEmpty_iff.mp hempty, rfl⟩
  · split at h
    next members =>
      split at h
      next => exact absurd h (by simp)
      next metadata hmetadata =>
        split at h
        next => exact absurd h (by simp)
        next own hown =>
          obtain rfl := Except.ok.inj h
          exact Or.inr ⟨members, metadata, own, rfl, hmetadata, hown, rfl⟩
    · exact absurd h (by simp)

theorem canonical_mergeLabels {labels : Dict String} {object merged : Json}
    (h : mergeLabels labels object = .ok merged) (hcanonical : object.Canonical) :
    merged.Canonical := by
  rcases mergeLabels_cases h with ⟨-, rfl⟩ | ⟨members, metadata, own, rfl, hmetadata, hown, rfl⟩
  · exact hcanonical
  · have hfields : Json.Canonical (.object metadata) :=
      canonical_of_mapOrEmpty? (fun value hvalue => hcanonical.find? hvalue) hmetadata
    have hlabels := canonical_overlay labels (canonical_of_ownLabels? hfields hown)
    exact hcanonical.insert "metadata" (hfields.insert "labels" hlabels)

theorem labelled_of_mergeLabels {labels : Dict String} (hordered : labels.Ordered)
    {object merged : Json} (h : mergeLabels labels object = .ok merged) :
    Labelled labels merged := by
  rcases mergeLabels_cases h with ⟨hnone, -⟩ | ⟨members, metadata, own, -, -, -, rfl⟩
  · exact Or.inl hnone
  · refine Or.inr ⟨_, _, _, rfl, Dict.find?_insert_self _ _ _, Dict.find?_insert_self _ _ _, ?_⟩
    exact fun label hlabel => find?_overlay hordered own hlabel

/-- Merging labels into an object that has them changes nothing. -/
theorem mergeLabels_of_labelled {labels : Dict String} {object : Json} (h : Labelled labels object)
    (hcanonical : object.Canonical) : mergeLabels labels object = .ok object := by
  rcases h with rfl | ⟨members, metadata, own, rfl, hmetadata, hlabels, hown⟩
  · rfl
  · have hfields := hcanonical.find? hmetadata
    have hoverlay : overlay labels own = own := overlay_of_find? (hfields.find? hlabels).1 hown
    have howns : ownLabels? metadata = some own := by simp only [ownLabels?, hlabels, mapOrEmpty?]
    have hmap : mapOrEmpty? (Dict.find? members "metadata") = some metadata := by
      rw [hmetadata]
      rfl
    -- From the inside out, what is stored is what is there already.
    have hinner : metadata.insert "labels" (.object own) = metadata :=
      hfields.1.insert_of_find? hlabels
    have houter : Dict.insert members "metadata" (.object metadata) = members :=
      hcanonical.1.insert_of_find? hmetadata
    unfold mergeLabels
    split
    · rfl
    · simp only [hmap, howns, hoverlay, hinner, houter]

/-- An object keeps its labels when it loses its namespace. -/
theorem Labelled.stripNamespace {labels : Dict String} {object : Json}
    (h : Labelled labels object) : Labelled labels (stripNamespace object) := by
  rcases h with hnone | ⟨members, metadata, own, rfl, hmetadata, hlabels, hown⟩
  · exact Or.inl hnone
  · simp only [Expansion.stripNamespace, hmetadata]
    split
    · exact Or.inr ⟨members, metadata, own, rfl, hmetadata, hlabels, hown⟩
    · refine Or.inr ⟨_, _, own, rfl, Dict.find?_insert_self _ _ _, ?_, hown⟩
      rw [Dict.find?_erase_of_ne _ (by decide)]
      exact hlabels

end Expansion

end ResourceTemplate

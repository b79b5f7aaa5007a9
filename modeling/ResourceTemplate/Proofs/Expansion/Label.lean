import ResourceTemplate.Proofs.Expansion.Independence
import ResourceTemplate.Proofs.Expansion.Placement

/-!
# Labels come last, win, and touch nothing else

The labels of a template have their keys substituted as well as their values, and of several keys
that come to the same the greatest gives the value.  These labels are merged into every object with
a kind, after its references have been replaced or were found not to be replaceable.

`LabelledBy` says what a merge makes of an object: under the labels in its metadata stand the labels
that it had itself and over them those of the template, and everywhere else it is what it was.  A
merge succeeds exactly on objects of the right shape.  Any other object is left as it was, and one
error is told of it.
-/

namespace ResourceTemplate.Expansion

open Expression

variable {State : Type}

/-! ## Fields of the metadata -/

/-- A field of the metadata of an object. -/
def metadataField? (object : Json) (field : String) : Option Json :=
  (object.get? "metadata").bind (·.get? field)

theorem bind_get?_of_mapOrEmpty? {value? : Option Json} {found : Dict Json}
    (h : mapOrEmpty? value? = some found) (key : String) :
    value?.bind (·.get? key) = found.find? key := by
  unfold mapOrEmpty? at h
  split at h
  · obtain rfl := Option.some.inj h
    rfl
  · obtain rfl := Option.some.inj h
    rfl
  · exact absurd h (by simp)

/-- Null counts as no labels, and nothing can be found in it either. -/
theorem bind_get?_of_ownLabels? {fields own : Dict Json} (h : ownLabels? fields = some own)
    (key : String) : (fields.find? "labels").bind (·.get? key) = own.find? key := by
  unfold ownLabels? at h
  split at h
  next hnull =>
    obtain rfl := Option.some.inj h
    rw [hnull]
    rfl
  · exact bind_get?_of_mapOrEmpty? h key

/-! ## What a merge makes of an object -/

/-- An object that can take labels: its metadata is absent or a map, in which the labels are absent,
null or a map. -/
def TakesLabels (object : Json) : Prop :=
  object.get? "metadata" = none ∨ ∃ fields : Dict Json, object.get? "metadata" = some (.object fields) ∧
    (fields.find? "labels" = none ∨ fields.find? "labels" = some .null ∨
      ∃ own, fields.find? "labels" = some (.object own))

/-- Labels lie over those that an object had, and everything else of it is as it was. -/
structure LabelledBy (labels : Dict String) (before after : Json) : Prop where
  canonical : after.Canonical
  members : ∀ key, key ≠ "metadata" → after.get? key = before.get? key
  fields : ∀ field, field ≠ "labels" → metadataField? after field = metadataField? before field
  labels : ∃ merged : Dict Json, metadataField? after "labels" = some (.object merged) ∧
    ∀ key, merged.find? key = ((labels.find? key).map Json.string).or
      ((metadataField? before "labels").bind (·.get? key))

section Merge

variable {labels : Dict String} {object merged : Json}

/-- A merge leaves the other members and the other metadata alone, whatever the object is. -/
theorem frame_of_mergeLabels (h : mergeLabels labels object = .ok merged) :
    (∀ key, key ≠ "metadata" → merged.get? key = object.get? key) ∧
      ∀ field, field ≠ "labels" → metadataField? merged field = metadataField? object field := by
  rcases mergeLabels_cases h with ⟨-, rfl⟩ | ⟨members, fields, own, rfl, hfields, -, rfl⟩
  · exact ⟨fun _ _ => rfl, fun _ _ => rfl⟩
  · refine ⟨fun key hkey => Dict.find?_insert_of_ne _ _ hkey.symm, fun field hfield => ?_⟩
    have hafter : Json.get? (.object (members.insert "metadata"
        (.object (fields.insert "labels" (.object (overlay labels own)))))) "metadata" =
          some (.object (fields.insert "labels" (.object (overlay labels own)))) :=
      Dict.find?_insert_self _ _ _
    rw [metadataField?, hafter, metadataField?]
    refine Eq.trans ?_ (bind_get?_of_mapOrEmpty? hfields field).symm
    exact Dict.find?_insert_of_ne _ _ hfield.symm

theorem labelledBy_of_mergeLabels (hnonempty : labels ≠ []) (hordered : labels.Ordered)
    (hcanonical : object.Canonical) (h : mergeLabels labels object = .ok merged) :
    LabelledBy labels object merged := by
  obtain ⟨hmembers, hframe⟩ := frame_of_mergeLabels h
  refine ⟨canonical_mergeLabels h hcanonical, hmembers, hframe, ?_⟩
  rcases mergeLabels_cases h with ⟨hnone, -⟩ | ⟨members, fields, own, rfl, hfields, hown, rfl⟩
  · exact absurd hnone hnonempty
  · refine ⟨overlay labels own, ?_, fun key => ?_⟩
    · rw [metadataField?, Json.get?, Dict.find?_insert_self]
      exact Dict.find?_insert_self _ _ _
    · rw [find?_overlay_ofList, hordered.ofList_eq, metadataField?]
      congr 1
      rw [Json.get?, bind_get?_of_mapOrEmpty? hfields]
      exact (bind_get?_of_ownLabels? hown key).symm

theorem exists_mapOrEmpty?_iff {value? : Option Json} :
    (∃ found, mapOrEmpty? value? = some found) ↔
      value? = none ∨ ∃ found : Dict Json, value? = some (.object found) := by
  cases value? with
  | none => simp [mapOrEmpty?]
  | some value => cases value <;> simp [mapOrEmpty?]

theorem exists_ownLabels?_iff {fields : Dict Json} :
    (∃ own, ownLabels? fields = some own) ↔ fields.find? "labels" = none ∨
      fields.find? "labels" = some .null ∨ ∃ own, fields.find? "labels" = some (.object own) := by
  unfold ownLabels?
  split
  next hnull => simp [hnull]
  next hne =>
    rw [exists_mapOrEmpty?_iff]
    exact or_congr_right ⟨Or.inr, fun h => h.resolve_left hne⟩

/-- A merge succeeds exactly on the maps that can take labels. -/
theorem exists_mergeLabels_iff {members : Dict Json} (hnonempty : labels ≠ []) :
    (∃ merged, mergeLabels labels (.object members) = .ok merged) ↔ TakesLabels (.object members) := by
  have hlabels : List.isEmpty labels = false := by simpa using hnonempty
  have hmerged : (∃ merged, mergeLabels labels (.object members) = .ok merged) ↔
      ∃ fields, mapOrEmpty? (members.find? "metadata") = some fields ∧
        ∃ own, ownLabels? fields = some own := by
    simp only [mergeLabels, hlabels, Bool.false_eq_true, if_false]
    cases mapOrEmpty? (members.find? "metadata") with
    | none => simp
    | some fields => cases hown : ownLabels? fields <;> simp [hown]
  rw [hmerged]
  constructor
  · rintro ⟨fields, hfields, hown⟩
    rcases exists_mapOrEmpty?_iff.mp ⟨fields, hfields⟩ with habsent | ⟨found, hfound⟩
    · exact Or.inl habsent
    · rw [hfound] at hfields
      obtain rfl := Option.some.inj hfields
      exact Or.inr ⟨found, hfound, exists_ownLabels?_iff.mp hown⟩
  · rintro (habsent | ⟨fields, hfields, hlabels⟩)
    · have hnone : members.find? "metadata" = none := habsent
      exact ⟨[], by rw [hnone]; rfl, [], rfl⟩
    · have hfound : members.find? "metadata" = some (.object fields) := hfields
      exact ⟨fields, by rw [hfound]; rfl, exists_ownLabels?_iff.mpr hlabels⟩

end Merge

/-! ## Errors of one kind -/

/-- The errors that a result tells. -/
def toldBy : Except (List Problem) Unit → List FieldError
  | .ok () => []
  | .error problems => problems.map Problem.report

theorem toldBy_expand (generators : GeneratorSet State) (state : State) (t : Template) :
    toldBy (t.expand generators state).2 =
      (expandTemplate generators state t).2.map Problem.report := by
  simp only [Template.expand]
  cases (expandTemplate generators state t).2 with
  | nil => rfl
  | cons first rest => rfl

/-- The place at which the labels of the object at a position are told to be wrong. -/
def labelField (index : Nat) : String := s!"item[{index}].labels"

/-- Whether an error is told of the labels of the object at a position. -/
def isLabelError (index : Nat) (error : FieldError) : Bool := error.field = labelField index

/-- Behind the digits of a number stands the first character that is none. -/
theorem eq_of_digits_append {i j : Nat} {first second : List Char}
    (h : Nat.toDigits 10 i ++ ']' :: first = Nat.toDigits 10 j ++ ']' :: second) :
    i = j ∧ first = second := by
  have hdigits : ∀ n : Nat, ∀ c ∈ Nat.toDigits 10 n, (c != ']') = true := by
    intro n c hc
    have hdigit := Nat.isDigit_of_mem_toDigits (by decide) (by decide) hc
    refine bne_iff_ne.mpr fun heq => ?_
    rw [heq] at hdigit
    exact absurd hdigit (by decide)
  have hhead := congrArg (List.takeWhile (· != ']')) h
  rw [List.takeWhile_append_of_pos (hdigits i), List.takeWhile_append_of_pos (hdigits j),
    List.takeWhile_cons_of_neg (by decide), List.takeWhile_cons_of_neg (by decide),
    List.append_nil, List.append_nil] at hhead
  have hnumber := congrArg (Nat.ofDigitChars 10 · 0) hhead
  simp only [Nat.ofDigitChars_ten_toDigits] at hnumber
  rw [hhead] at h
  exact ⟨hnumber, (List.cons.inj (List.append_cancel_left h)).2⟩

/-- A place in an object tells the position of the object. -/
theorem eq_of_itemField {i j : Nat} {first second : String}
    (hfirst : first.toList.head? = some ']') (hsecond : second.toList.head? = some ']')
    (h : "item[" ++ toString i ++ first = "item[" ++ toString j ++ second) :
    i = j ∧ first = second := by
  obtain ⟨front, hfront⟩ := List.head?_eq_some_iff.mp hfirst
  obtain ⟨behind, hbehind⟩ := List.head?_eq_some_iff.mp hsecond
  have hchars := congrArg String.toList h
  simp only [String.toList_append, Nat.toString_eq_ofList_toDigits, String.toList_ofList,
    List.append_assoc, hfront, hbehind] at hchars
  obtain ⟨hindex, hrest⟩ := eq_of_digits_append (List.append_cancel_left hchars)
  refine ⟨hindex, String.toList_injective ?_⟩
  rw [hfront, hbehind, hrest]

/-- What stands behind the position in the places at which errors of an object are told. -/
def itemFields : List String := ["].objects", "].parameters", "].labels"]

section Places

variable {values labels : Dict String} {index : Nat} {value : Json} {error : FieldError}

theorem field_of_mem_substitutionStep (h : error ∈ (substitutionStep values index value).2) :
    error.field = "item[" ++ toString index ++ "].parameters" := by
  unfold substitutionStep at h
  split at h
  · exact absurd h List.not_mem_nil
  · rw [List.mem_singleton.mp h]
    rfl

theorem field_of_mem_labelStep (h : error ∈ (labelStep labels index value).2) :
    error.field = labelField index := by
  unfold labelStep at h
  split at h
  · exact absurd h List.not_mem_nil
  · rw [List.mem_singleton.mp h]
    rfl

theorem field_of_mem_objectStep (h : error ∈ (objectStep values labels index value).2) :
    ∃ suffix ∈ itemFields, error.field = "item[" ++ toString index ++ suffix := by
  unfold objectStep at h
  split at h
  · rw [List.mem_singleton.mp h]
    exact ⟨"].objects", by simp [itemFields], rfl⟩
  · rcases List.mem_append.mp h with h | h
    · exact ⟨"].parameters", by simp [itemFields], field_of_mem_substitutionStep h⟩
    · exact ⟨"].labels", by simp [itemFields], field_of_mem_labelStep h⟩

end Places

/-- No error of an object is told of the labels of another. -/
theorem filter_isLabelError_of_ne (values labels : Dict String) {index other : Nat}
    (hne : other ≠ index) (object : Json) :
    (objectStep values labels other object).2.filter (isLabelError index) = [] := by
  refine List.filter_eq_nil_iff.mpr fun error herror => ?_
  obtain ⟨suffix, hsuffix, hfield⟩ := field_of_mem_objectStep herror
  rw [isLabelError, decide_eq_true_eq]
  intro heq
  have hhead : suffix.toList.head? = some ']' := by
    simp only [itemFields, List.mem_cons, List.not_mem_nil, or_false] at hsuffix
    rcases hsuffix with rfl | rfl | rfl <;> decide
  have hlabels : "].labels".toList.head? = some ']' := by decide
  exact hne (eq_of_itemField hhead hlabels (hfield.symm.trans heq)).1

/-- Of the errors of an object, those of the merge are told of its labels. -/
theorem filter_isLabelError_objectStep (values labels : Dict String) (index : Nat) {object : Json}
    (hkind : (object.getString? "kind").isSome) :
    (objectStep values labels index object).2.filter (isLabelError index) =
      (labelStep labels index (substituteObject values (stripNamespace object)).1).2 := by
  obtain ⟨kind, hkind⟩ := Option.isSome_iff_exists.mp hkind
  have hsubstituted : ∀ value,
      (substitutionStep values index value).2.filter (isLabelError index) = [] := by
    refine fun value => List.filter_eq_nil_iff.mpr fun error herror => ?_
    rw [isLabelError, decide_eq_true_eq, field_of_mem_substitutionStep herror]
    intro heq
    have hparameters : "].parameters".toList.head? = some ']' := by decide
    have hlabels : "].labels".toList.head? = some ']' := by decide
    exact absurd (eq_of_itemField hparameters hlabels heq).2 (by decide)
  have hlabelled : ∀ value,
      (labelStep labels index value).2.filter (isLabelError index) = (labelStep labels index value).2 :=
    fun value => List.filter_eq_self.mpr fun error herror =>
      decide_eq_true (field_of_mem_labelStep herror)
  have hbefore := congrArg Prod.fst (substitutionStep_eq values index (stripNamespace object))
  simp only [objectStep, hkind, List.filter_append, hsubstituted, hlabelled, List.nil_append, hbefore]

/-- What passes a test that nothing passes at any other position of a list. -/
theorem filter_flatten_mapIdx {α β : Type} {f : Nat → α → List β} {test : β → Bool} {items : List α}
    {index : Nat} {item : α} (hitem : items[index]? = some item)
    (hothers : ∀ i other, i ≠ index → (f i other).filter test = []) :
    ((items.mapIdx f).flatten.filter test) = (f index item).filter test := by
  induction items generalizing f index with
  | nil => simp at hitem
  | cons first rest ih =>
      rw [List.mapIdx_cons, List.flatten_cons, List.filter_append]
      cases index with
      | zero =>
          obtain rfl := Option.some.inj hitem
          have hrest : ((rest.mapIdx fun i => f (i + 1)).flatten.filter test) = [] := by
            rw [List.filter_flatten, List.flatten_eq_nil_iff]
            intro part hpart
            simp only [List.mem_map, List.mem_mapIdx] at hpart
            obtain ⟨_, ⟨i, hi, rfl⟩, rfl⟩ := hpart
            exact hothers (i + 1) _ (by omega)
          rw [hrest, List.append_nil]
      | succ index =>
          rw [hothers 0 first (by omega), List.nil_append]
          exact ih (f := fun i => f (i + 1)) hitem fun i other hne => hothers (i + 1) other (by omega)

/-! ## The labels of a template -/

/-- What a merge makes of an object, and the errors that are told of its labels. -/
inductive Merged (labels : Dict String) (index : Nat) (before : Json) :
    Json → List FieldError → Prop where
  /-- There are no labels, and nothing happens. -/
  | unlabelled (hlabels : labels = []) : Merged labels index before before []
  | labelled {after : Json} (hlabels : labels ≠ []) (htakes : TakesLabels before)
      (hafter : LabelledBy labels before after) : Merged labels index before after []
  /-- The object cannot take labels and stays as it is. -/
  | refused (hlabels : labels ≠ []) (hrefuses : ¬TakesLabels before) (cause : LabelError) :
      Merged labels index before before
        [⟨labelField index, .invalid, s!"label could not be applied: {cause.message}"⟩]

theorem Merged.of_takesLabels {labels : Dict String} {index : Nat} {before after : Json}
    {errors : List FieldError} (h : Merged labels index before after errors) (hlabels : labels ≠ [])
    (htakes : TakesLabels before) : LabelledBy labels before after ∧ errors = [] := by
  cases h with
  | unlabelled hnone => exact absurd hnone hlabels
  | labelled _ _ hafter => exact ⟨hafter, rfl⟩
  | refused _ hrefuses _ => exact absurd htakes hrefuses

theorem Merged.of_not_takesLabels {labels : Dict String} {index : Nat} {before after : Json}
    {errors : List FieldError} (h : Merged labels index before after errors) (hlabels : labels ≠ [])
    (hrefuses : ¬TakesLabels before) : after = before ∧ ∃ cause : LabelError, errors =
      [⟨labelField index, .invalid, s!"label could not be applied: {cause.message}"⟩] := by
  cases h with
  | unlabelled hnone => exact absurd hnone hlabels
  | labelled _ htakes _ => exact absurd htakes hrefuses
  | refused _ _ cause => exact ⟨rfl, cause, rfl⟩

theorem merged_labelStep {labels : Dict String} (hordered : labels.Ordered) (index : Nat)
    {members : Dict Json} (hcanonical : (Json.object members).Canonical) :
    Merged labels index (.object members) (labelStep labels index (.object members)).1
      (labelStep labels index (.object members)).2 := by
  by_cases hlabels : labels = []
  · subst hlabels
    exact .unlabelled rfl
  · unfold labelStep
    split
    next merged hmerged =>
      exact .labelled hlabels ((exists_mergeLabels_iff hlabels).mp ⟨merged, hmerged⟩)
        (labelledBy_of_mergeLabels hlabels hordered hcanonical hmerged)
    next cause hfailed =>
      refine .refused hlabels (fun htakes => ?_) cause
      obtain ⟨merged, hmerged⟩ := (exists_mergeLabels_iff hlabels).mpr htakes
      exact absurd (hfailed.symm.trans hmerged) (by simp)

theorem canonical_substituteObject {values : Dict String} {object : Json} (h : object.Canonical) :
    (substituteObject values object).1.Canonical := by
  unfold substituteObject
  split
  next hdone => exact canonical_substitute hdone
  next => exact h

/-- The step of an object with a kind ends with the merge. -/
theorem merged_objectStep {values labels : Dict String} (hordered : labels.Ordered) (index : Nat)
    {object : Json} (hcanonical : object.Canonical) (hkind : (object.getString? "kind").isSome) :
    Merged labels index (substituteObject values (stripNamespace object)).1
      (objectStep values labels index object).1
      ((objectStep values labels index object).2.filter (isLabelError index)) := by
  have hbefore := congrArg Prod.fst (substitutionStep_eq values index (stripNamespace object))
  have hafter : (objectStep values labels index object).1 =
      (labelStep labels index (substituteObject values (stripNamespace object)).1).1 := by
    obtain ⟨kind, hkind⟩ := Option.isSome_iff_exists.mp hkind
    simp only [objectStep, hkind, hbefore]
  have hmap := (isMap_of_kind hkind).stripNamespace.substitutionStep values index
  rw [hbefore] at hmap
  obtain ⟨members, hmembers⟩ := hmap
  have hmembersCanonical : (substituteObject values (stripNamespace object)).1.Canonical :=
    canonical_substituteObject (canonical_stripNamespace hcanonical)
  rw [hafter, filter_isLabelError_objectStep values labels index hkind, hmembers]
  rw [hmembers] at hmembersCanonical
  exact merged_labelStep hordered index hmembersCanonical

/-- Past the parameters, the labels that are left are substituted, and each object with a kind is
merged with them after its references have been replaced, or as it was if they cannot be. -/
theorem labels_are_merged (generators : GeneratorSet State) (state : State) (t : Template)
    (hlabels : t.labels.Ordered) (hobjects : ∀ object ∈ t.objects, object.Canonical)
    (hparameters : (prepareParameters generators 0 state t.parameters).1.2 = []) :
    let expanded := t.expand generators state
    let values := expanded.1.values
    let labels := expanded.1.labels
    labels.Ordered ∧
    (∀ key value, labels.find? key = some value ↔ ∃ label ∈ t.labels,
      substituteText values label.1 = key ∧ substituteText values label.2 = value ∧
        ∀ other ∈ t.labels, substituteText values other.1 = key → other.1 ≤ label.1) ∧
    ∀ index object, t.objects[index]? = some object → (object.getString? "kind").isSome →
      ∃ after, expanded.1.objects[index]? = some after ∧
        Merged labels index (substituteObject values (stripNamespace object)).1 after
          ((toldBy expanded.2).filter (isLabelError index)) := by
  intro expanded values labels
  have hexpanded := expandTemplate_of_prepared hparameters
  have htemplate : expanded.1 = (expandContent (prepared generators state t)).1 :=
    congrArg Prod.fst hexpanded
  have hsubstituted : labels = substituteLabels values t.labels := by
    simp only [labels, values, htemplate]
    rfl
  have hordered : labels.Ordered := hsubstituted ▸ Dict.ordered_ofList _
  refine ⟨hordered, fun key value => ?_, fun index object hobject hkind => ?_⟩
  · rw [hsubstituted]
    exact hlabels.find?_ofList_map_iff _ _
  · have hafter : expanded.1.objects =
        t.objects.mapIdx fun index object => (objectStep values labels index object).1 := by
      simp only [values, labels, htemplate]
      exact expandContent_objects _
    have htold : toldBy expanded.2 =
        (t.objects.mapIdx fun index object => (objectStep values labels index object).2).flatten := by
      simp only [expanded, values, labels, htemplate, toldBy_expand, hexpanded]
      exact expandContent_report _
    have hfilter := filter_flatten_mapIdx hobject
      (f := fun index object => (objectStep values labels index object).2)
      fun i other hne => filter_isLabelError_of_ne values labels hne other
    refine ⟨(objectStep values labels index object).1, ?_, ?_⟩
    · rw [hafter, List.getElem?_mapIdx, hobject]
      rfl
    · rw [htold, hfilter]
      exact merged_objectStep hordered index (hobjects object (List.mem_of_getElem? hobject)) hkind

/-- A template with two labels that come to the same.  Its first object has no metadata, its second
refers to data that cannot be read, and in its third the labels are a text. -/
def crossingLabels : Template :=
  { Template.empty with
    parameters := [⟨"A", none, none, some "k", none, none, true⟩]
    labels := [("$\x7bA\x7d", "early"), ("k", "late $\x7bA\x7d")]
    objects := [
      .object [("kind", .string "Pod")],
      .object [("kind", .string "Pod"), ("metadata", .object [("labels", .null)]),
        ("spec", .string "$\x7b\x7bA\x7d\x7d")],
      .object [("kind", .string "Pod"), ("metadata", .object [("labels", .string "$\x7bA\x7d")])]] }

theorem canonical_crossingLabels : ∀ object ∈ crossingLabels.objects, object.Canonical := by
  intro object hobject
  simp only [crossingLabels, List.mem_cons, List.not_mem_nil, or_false] at hobject
  rcases hobject with rfl | rfl | rfl
  · exact ⟨List.pairwise_singleton _ _, trivial, trivial⟩
  · have hkind : ∀ entry ∈ [("metadata", Json.object [("labels", .null)]),
        ("spec", .string "$\x7b\x7bA\x7d\x7d")], "kind" < entry.1 := by
      intro entry hentry
      simp only [List.mem_cons, List.not_mem_nil, or_false] at hentry
      rcases hentry with rfl | rfl <;> decide
    exact ⟨List.pairwise_cons.mpr ⟨hkind, List.pairwise_pair.mpr (by decide)⟩, trivial,
      ⟨List.pairwise_singleton _ _, trivial, trivial⟩, trivial, trivial⟩
  · exact ⟨List.pairwise_pair.mpr (by decide), trivial,
      ⟨List.pairwise_singleton _ _, trivial, trivial⟩, trivial⟩

theorem labels_are_merged_crossingLabels :
    crossingLabels.labels.Ordered ∧ (∀ object ∈ crossingLabels.objects, object.Canonical) ∧
      (prepareParameters noGenerators 0 () crossingLabels.parameters).1.2 = [] ∧
      (crossingLabels.expand noGenerators ()).1.labels = [("k", "late k")] ∧
      (∃ after, (crossingLabels.expand noGenerators ()).1.objects[1]? = some after ∧
        LabelledBy [("k", "late k")] (.object [("kind", .string "Pod"),
          ("metadata", .object [("labels", .null)]), ("spec", .string "$\x7b\x7bA\x7d\x7d")]) after) ∧
      ∃ cause : LabelError, (toldBy (crossingLabels.expand noGenerators ()).2).filter (isLabelError 2) =
        [⟨labelField 2, .invalid, s!"label could not be applied: {cause.message}"⟩] := by
  have hlabels : crossingLabels.labels.Ordered := List.pairwise_pair.mpr (by decide)
  have hparameters : (prepareParameters noGenerators 0 () crossingLabels.parameters).1.2 = [] := by
    decide
  have hvalues : (crossingLabels.expand noGenerators ()).1.values = [("A", "k")] := by decide +kernel
  have hmerged : (crossingLabels.expand noGenerators ()).1.labels = [("k", "late k")] := by
    decide +kernel
  obtain ⟨-, -, hobjects⟩ :=
    labels_are_merged noGenerators () crossingLabels hlabels canonical_crossingLabels hparameters
  simp only [hvalues, hmerged] at hobjects
  refine ⟨hlabels, canonical_crossingLabels, hparameters, hmerged, ?_, ?_⟩
  · obtain ⟨after, hafter, h⟩ := hobjects 1 _ rfl rfl
    have hbefore : (substituteObject [("A", "k")] (stripNamespace (.object [("kind", .string "Pod"),
        ("metadata", .object [("labels", .null)]), ("spec", .string "$\x7b\x7bA\x7d\x7d")]))).1 =
          .object [("kind", .string "Pod"), ("metadata", .object [("labels", .null)]),
            ("spec", .string "$\x7b\x7bA\x7d\x7d")] := by
      decide +kernel
    rw [hbefore] at h
    exact ⟨after, hafter,
      (h.of_takesLabels (by decide) (Or.inr ⟨[("labels", .null)], rfl, Or.inr (Or.inl rfl)⟩)).1⟩
  · obtain ⟨after, -, h⟩ := hobjects 2 _ rfl rfl
    have hbefore : (substituteObject [("A", "k")] (stripNamespace (.object [("kind", .string "Pod"),
        ("metadata", .object [("labels", .string "$\x7bA\x7d")])]))).1 =
          .object [("kind", .string "Pod"), ("metadata", .object [("labels", .string "k")])] := by
      decide +kernel
    rw [hbefore] at h
    refine (h.of_not_takesLabels (by decide) ?_).2
    rintro (habsent | ⟨fields, hfields, hshape⟩)
    · exact absurd habsent (by simp [Json.get?, Dict.find?])
    · obtain rfl : fields = [("labels", .string "k")] := by
        simpa [Json.get?, Dict.find?] using hfields.symm
      simp [Dict.find?] at hshape

end ResourceTemplate.Expansion

import ResourceTemplate.Rendering

/-!
# Objects are expanded apart from each other

`objectStep` says what becomes of one object of a template and which errors are told of it, from the
position and the object alone.  The main statement is that an expansion which gets past the
parameters is exactly these steps side by side: the object at each position is that of its own step,
and the errors are those of the steps, one step after the other.  An object that fails therefore
neither stops nor changes any other, and none is left half substituted.

Labels are merged into an object only after it was found to have a kind.  Such an object is a map
and remains one, so the merge never complains that the object itself is not a map.
-/

namespace ResourceTemplate.Expansion

open Expression

variable {State : Type}

/-- Substitution in the object at a position; an object that cannot be substituted in stays whole.
-/
def substitutionStep (values : Dict String) (index : Nat) (object : Json) :
    Json × List FieldError :=
  match substitute values object with
  | .ok done => (done, [])
  | .error cause => (object, [⟨s!"item[{index}].parameters", .invalid, cause.message⟩])

/-- Merging labels into the object at a position; an object that cannot take them stays whole. -/
def labelStep (labels : Dict String) (index : Nat) (object : Json) : Json × List FieldError :=
  match mergeLabels labels object with
  | .ok done => (done, [])
  | .error cause =>
      (object,
        [⟨s!"item[{index}].labels", .invalid, s!"label could not be applied: {cause.message}"⟩])

/-- What becomes of the object at a position, and the errors that are told of it. -/
def objectStep (values labels : Dict String) (index : Nat) (object : Json) :
    Json × List FieldError :=
  match object.getString? "kind" with
  | none => (object, [⟨s!"item[{index}].objects", .invalid, "unable to handle object: missing kind"⟩])
  | some _ =>
      let substituted := substitutionStep values index (stripNamespace object)
      let labelled := labelStep labels index substituted.1
      (labelled.1, substituted.2 ++ labelled.2)

/-- Problems of one object as they are told for a position. -/
def reportAt (index : Nat) (problems : List ObjectProblem) : List FieldError :=
  problems.map fun p => (Problem.ofObject index p).report

theorem substitutionStep_eq (values : Dict String) (index : Nat) (object : Json) :
    substitutionStep values index object =
      ((substituteObject values object).1, reportAt index (substituteObject values object).2) := by
  unfold substitutionStep substituteObject
  cases substitute values object <;> rfl

theorem labelStep_eq (labels : Dict String) (index : Nat) (object : Json) :
    labelStep labels index object =
      ((labelObject labels object).1, reportAt index (labelObject labels object).2) := by
  unfold labelStep labelObject
  cases mergeLabels labels object <;> rfl

/-- The expansion of an object is its step, its problems being told for the position. -/
theorem objectStep_eq (values labels : Dict String) (index : Nat) (object : Json) :
    objectStep values labels index object =
      ((expandObject values labels object).1,
        reportAt index (expandObject values labels object).2) := by
  unfold objectStep expandObject
  cases object.getString? "kind" with
  | none => rfl
  | some kind => simp only [substitutionStep_eq, labelStep_eq, reportAt, List.map_append]

theorem expandObjects_objects (values labels : Dict String) (index : Nat) (objects : List Json) :
    (expandObjects values labels index objects).1 =
      objects.mapIdx fun i object => (objectStep values labels (index + i) object).1 := by
  induction objects generalizing index with
  | nil => rfl
  | cons object rest ih =>
      rw [List.mapIdx_cons]
      simp only [expandObjects, objectStep_eq, ih, Nat.add_zero, Nat.add_assoc, Nat.add_comm 1]

theorem expandObjects_report (values labels : Dict String) (index : Nat) (objects : List Json) :
    (expandObjects values labels index objects).2.map Problem.report =
      (objects.mapIdx fun i object =>
        (objectStep values labels (index + i) object).2).flatten := by
  induction objects generalizing index with
  | nil => rfl
  | cons object rest ih =>
      rw [List.mapIdx_cons, List.flatten_cons]
      simp only [expandObjects, objectStep_eq, List.map_append, List.map_map, ih, Nat.add_zero,
        Nat.add_assoc, Nat.add_comm 1]
      rfl

/-! ## An object with a kind is a map and stays one -/

/-- A value that is an object. -/
def IsMap (value : Json) : Prop := ∃ members, value = .object members

theorem isMap_of_kind {object : Json} (h : (object.getString? "kind").isSome) : IsMap object := by
  cases object with
  | object members => exact ⟨members, rfl⟩
  | null | bool _ | number _ | string _ | array _ => simp [Json.getString?, Json.get?] at h

theorem IsMap.stripNamespace {object : Json} (h : IsMap object) :
    IsMap (stripNamespace object) := by
  obtain ⟨members, rfl⟩ := h
  simp only [Expansion.stripNamespace]
  split
  · split
    · exact ⟨_, rfl⟩
    · exact ⟨_, rfl⟩
  · exact ⟨_, rfl⟩

theorem IsMap.substitute {values : Dict String} {object value : Json} (h : IsMap object)
    (hsubstitute : substitute values object = .ok value) : IsMap value := by
  obtain ⟨members, rfl⟩ := h
  rw [Expansion.substitute] at hsubstitute
  cases hmembers : substituteMembers values members with
  | error cause => simp [hmembers, Except.map] at hsubstitute
  | ok done =>
      simp only [hmembers, Except.map, Except.ok.injEq] at hsubstitute
      exact ⟨_, hsubstitute.symm⟩

theorem IsMap.substitutionStep {object : Json} (h : IsMap object) (values : Dict String)
    (index : Nat) : IsMap (substitutionStep values index object).1 := by
  unfold Expansion.substitutionStep
  cases hsubstitute : Expansion.substitute values object with
  | ok done => exact h.substitute hsubstitute
  | error cause => exact h

/-- Merging labels into a map can fail deeper down only. -/
theorem IsMap.mergeLabels_error {labels : Dict String} {object : Json} {cause : LabelError}
    (h : IsMap object) (hmerge : mergeLabels labels object = .error cause) :
    cause = .metadataNotMap ∨ cause = .labelsNotMap := by
  obtain ⟨members, rfl⟩ := h
  unfold mergeLabels at hmerge
  by_cases hempty : List.isEmpty labels = true
  · simp [hempty] at hmerge
  · cases hmetadata : mapOrEmpty? (Dict.find? members "metadata") with
    | none =>
        simp only [hempty, hmetadata, Bool.false_eq_true, if_false, Except.error.injEq] at hmerge
        exact Or.inl hmerge.symm
    | some metadata =>
        cases hown : ownLabels? metadata with
        | none =>
            simp only [hempty, hmetadata, hown, Bool.false_eq_true, if_false,
              Except.error.injEq] at hmerge
            exact Or.inr hmerge.symm
        | some own => simp [hempty, hmetadata, hown] at hmerge

/-- A text that begins otherwise than the label error does. -/
theorem substitutionMessage_ne (cause : SubstitutionError) :
    cause.message ≠ "label could not be applied: object is not a map" := by
  unfold SubstitutionError.message
  -- The first character already differs, whatever the template and the cause are.
  generalize cause.cause.message = detail
  show "unable to decode non-string parameter value '" ++ cause.written ++ "' in '" ++ cause.text ++
    "': " ++ detail ≠ _
  intro h
  have hfirst := congrArg (fun text : String => text.toList.take 1) h
  simp at hfirst

/-- No step tells that its object is not a map. -/
theorem objectStep_detail_ne (values labels : Dict String) (index : Nat) (object : Json) :
    ∀ error ∈ (objectStep values labels index object).2,
      error.detail ≠ "label could not be applied: object is not a map" := by
  intro error herror
  unfold objectStep at herror
  cases hkind : object.getString? "kind" with
  | none =>
      simp only [hkind, List.mem_singleton] at herror
      rw [herror]
      show "unable to handle object: missing kind" ≠ _
      decide
  | some kind =>
      have hmap : IsMap (stripNamespace object) :=
        (isMap_of_kind (by rw [hkind]; rfl)).stripNamespace
      simp only [hkind, List.mem_append] at herror
      rcases herror with hsubstituted | hlabelled
      · unfold substitutionStep at hsubstituted
        cases hsubstitute : substitute values (stripNamespace object) with
        | ok done => simp [hsubstitute] at hsubstituted
        | error cause =>
            simp only [hsubstitute, List.mem_singleton] at hsubstituted
            rw [hsubstituted]
            exact substitutionMessage_ne cause
      · have hstep := hmap.substitutionStep values index
        unfold labelStep at hlabelled
        cases hmerge : mergeLabels labels
            (substitutionStep values index (stripNamespace object)).1 with
        | ok done => simp [hmerge] at hlabelled
        | error cause =>
            simp only [hmerge, List.mem_singleton] at hlabelled
            rw [hlabelled]
            show "label could not be applied: " ++ cause.message ≠ _
            rcases hstep.mergeLabels_error hmerge with rfl | rfl
            · decide
            · decide

/-! ## The expansion of a template -/

/-- The template with its parameters prepared, and its objects and labels still as they were. -/
def prepared (generators : GeneratorSet State) (state : State) (t : Template) : Template :=
  { t with parameters := (prepareParameters generators 0 state t.parameters).1.1 }

/-- An expansion that gets past the parameters puts their values into the content. -/
theorem expandTemplate_of_prepared {generators : GeneratorSet State} {state : State} {t : Template}
    (h : (prepareParameters generators 0 state t.parameters).1.2 = []) :
    expandTemplate generators state t = expandContent (prepared generators state t) := by
  simp [expandTemplate, h, prepared]

theorem expandContent_objects (t : Template) :
    (expandContent t).1.objects = t.objects.mapIdx fun index object =>
      (objectStep t.values (substituteLabels t.values t.labels) index object).1 := by
  have hobjects := expandObjects_objects t.values (substituteLabels t.values t.labels) 0 t.objects
  simp only [Nat.zero_add] at hobjects
  exact hobjects

theorem expandContent_report (t : Template) :
    (expandContent t).2.map Problem.report = (t.objects.mapIdx fun index object =>
      (objectStep t.values (substituteLabels t.values t.labels) index object).2).flatten := by
  have hreport := expandObjects_report t.values (substituteLabels t.values t.labels) 0 t.objects
  simp only [Nat.zero_add] at hreport
  exact hreport

/-- The result of an expansion tells whether there were problems, and all of them. -/
theorem expand_result (generators : GeneratorSet State) (state : State) (t : Template) :
    ((t.expand generators state).2 = .ok () ↔ (expandTemplate generators state t).2 = []) ∧
      ∀ problems, (t.expand generators state).2 = .error problems →
        problems ≠ [] ∧ problems = (expandTemplate generators state t).2 := by
  simp only [Template.expand]
  cases hproblems : (expandTemplate generators state t).2 with
  | nil => simp
  | cons first rest =>
      refine ⟨by simp, ?_⟩
      intro problems h
      simp only [List.isEmpty_cons, Bool.false_eq_true, if_false, Except.error.injEq] at h
      exact ⟨by rw [← h]; exact List.cons_ne_nil first rest, h.symm⟩

/-- Past the parameters an expansion is the steps of its objects side by side, taken with the
prepared parameters and the substituted labels.  The object at each position is that of its own
step, also when other objects are put in the other places, and the errors are those of the steps in
order.  The expansion succeeds when there are none, and otherwise tells at least one. -/
theorem expand_eq_steps (generators : GeneratorSet State) (state : State) (t : Template)
    (hparameters : (prepareParameters generators 0 state t.parameters).1.2 = []) :
    let expanded := t.expand generators state
    let step := objectStep expanded.1.values expanded.1.labels
    let errors := (t.objects.mapIdx fun index object => (step index object).2).flatten
    expanded.1.parameters = (prepareParameters generators 0 state t.parameters).1.1 ∧
      expanded.1.labels = substituteLabels expanded.1.values t.labels ∧
      expanded.1.objects = t.objects.mapIdx (fun index object => (step index object).1) ∧
      (∀ (others : List Json) (index : Nat), others[index]? = t.objects[index]? →
        (Template.expand generators state { t with objects := others }).1.objects[index]? =
          expanded.1.objects[index]?) ∧
      (expanded.2 = .ok () ↔ errors = []) ∧
      (∀ problems, expanded.2 = .error problems →
        problems ≠ [] ∧ problems.map Problem.report = errors) ∧
      ∀ error ∈ errors, error.detail ≠ "label could not be applied: object is not a map" := by
  intro expanded step errors
  have hexpanded (others : List Json) :
      expandTemplate generators state { t with objects := others } =
        expandContent (prepared generators state { t with objects := others }) :=
    expandTemplate_of_prepared hparameters
  have htemplate : expanded.1 = (expandContent (prepared generators state t)).1 :=
    congrArg Prod.fst (hexpanded t.objects)
  have hreport : (expandTemplate generators state t).2.map Problem.report = errors := by
    rw [hexpanded t.objects, expandContent_report]
    simp only [errors, step, htemplate]
    rfl
  have hobjects : expanded.1.objects =
      t.objects.mapIdx fun index object => (step index object).1 := by
    simp only [step, htemplate]
    exact expandContent_objects (prepared generators state t)
  refine ⟨by rw [htemplate]; rfl, by rw [htemplate]; rfl, hobjects, ?_, ?_, ?_, ?_⟩
  · intro others index hsame
    -- Neither the values nor the labels are read off the objects.
    have hothers := congrArg (fun done => done.1.objects[index]?) (hexpanded others)
    rw [expandContent_objects] at hothers
    refine Eq.trans hothers ?_
    rw [hobjects, List.getElem?_mapIdx, List.getElem?_mapIdx]
    simp only [step, htemplate]
    exact congrArg (Option.map _) hsame
  · rw [(expand_result generators state t).1, ← hreport, List.map_eq_nil_iff]
  · intro problems h
    obtain ⟨hne, rfl⟩ := (expand_result generators state t).2 problems h
    exact ⟨hne, hreport⟩
  · intro error herror
    simp only [errors, List.mem_flatten, List.mem_mapIdx] at herror
    obtain ⟨told, ⟨index, hindex, rfl⟩, herror⟩ := herror
    exact objectStep_detail_ne _ _ index _ error herror

/-- Generators of which none is known. -/
def noGenerators : GeneratorSet Unit := ⟨fun _ => none⟩

/-- A template whose first three objects fail in the three possible ways, the second of them after a
member has been substituted. -/
def failingThrice : Template :=
  { Template.empty with
    parameters := [⟨"A", none, none, some "x", none, none, true⟩]
    labels := [("app", "$\x7bA\x7d")]
    objects := [
      .object [("data", .string "$\x7bA\x7d")],
      .object [("a", .string "$\x7bA\x7d"), ("b", .string "$\x7b\x7bA\x7d\x7d"),
        ("kind", .string "Pod")],
      .object [("kind", .string "Pod"),
        ("metadata", .object [("labels", .string "$\x7bA\x7d")])],
      .object [("a", .string "$\x7bA\x7d"), ("kind", .string "Pod")]] }

theorem expand_failingThrice :
    (prepareParameters noGenerators 0 () failingThrice.parameters).1.2 = [] ∧
      ∃ problems, (failingThrice.expand noGenerators ()).2 = .error problems ∧
        (problems.map Problem.report).map FieldError.field =
          ["item[0].objects", "item[1].parameters", "item[2].labels"] := by
  have hparameters : (prepareParameters noGenerators 0 () failingThrice.parameters).1.2 = [] := by
    decide
  obtain ⟨-, -, -, -, hok, herror, -⟩ :=
    expand_eq_steps noGenerators () failingThrice hparameters
  refine ⟨hparameters, ?_⟩
  cases hresult : (failingThrice.expand noGenerators ()).2 with
  | ok done =>
      have hnone := congrArg List.length (hok.mp hresult)
      exact absurd hnone (by decide +kernel)
  | error problems =>
      refine ⟨problems, rfl, ?_⟩
      rw [(herror problems hresult).2]
      decide +kernel

end ResourceTemplate.Expansion

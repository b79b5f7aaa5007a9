import ResourceTemplate.Proofs.Expansion.Filling
import ResourceTemplate.Proofs.Expansion.Placement

/-!
# Expanding a template again

An expansion that succeeds leaves a settled template behind.  Its labels stand in order, its objects
are canonical and have the labels, and its required parameters are set.

On a settled template in which nothing is left to be done, every stage of an expansion but one is
without effect: no value is generated, the texts are substituted by themselves, objects are built
anew as they were, and the labels are there already.  The remaining stage takes fixed namespaces
away.  A namespace that came from a parameter is fixed by then, so the second expansion removes it.
-/

namespace ResourceTemplate

/-- The texts of a template in which an expansion puts values. -/
def Template.texts (t : Template) : List String :=
  t.message?.toList ++ t.labels.flatMap (fun label => [label.1, label.2]) ++
    t.objects.flatMap Json.texts

theorem Template.mem_texts_of_message {t : Template} {message : String}
    (h : t.message? = some message) : message ∈ t.texts := by
  simp [Template.texts, h]

theorem Template.mem_texts_of_label {t : Template} {label : String × String}
    (h : label ∈ t.labels) : label.1 ∈ t.texts ∧ label.2 ∈ t.texts := by
  have hboth : ∀ text ∈ [label.1, label.2], text ∈ t.texts := by
    intro text htext
    refine List.mem_append_left _ (List.mem_append_right _ ?_)
    exact List.mem_flatMap.mpr ⟨label, h, htext⟩
  exact ⟨hboth _ (by simp), hboth _ (by simp)⟩

theorem Template.mem_texts_of_object {t : Template} {object : Json} {text : String}
    (h : object ∈ t.objects) (htext : text ∈ object.texts) : text ∈ t.texts :=
  List.mem_append_right _ (List.mem_flatMap.mpr ⟨object, h, htext⟩)

namespace Expansion

open Expression

/-! ## Settled objects -/

/-- What holds of the objects of an expanded template with some labels. -/
structure SettledObject (labels : Dict String) (object : Json) : Prop where
  canonical : object.Canonical
  labelled : Labelled labels object

section Objects

variable {values labels : Dict String} {object before after : Json}

theorem FilledObject.settled (h : FilledObject values labels before after)
    (hordered : labels.Ordered) : SettledObject labels after := by
  obtain ⟨done, hsubstitute, hmerge⟩ := h.content
  exact ⟨canonical_mergeLabels hmerge (canonical_substitute hsubstitute),
    labelled_of_mergeLabels hordered hmerge⟩

/-- A settled object without a declared reference at most loses its namespace. -/
theorem SettledObject.filled (h : SettledObject labels object)
    (hkind : (object.getString? "kind").isSome) (hplain : ∀ text ∈ object.texts, Plain values text) :
    FilledObject values labels object (stripNamespace object) := by
  have hcanonical := canonical_stripNamespace h.canonical
  have htexts : ∀ text ∈ (stripNamespace object).texts, Plain values text :=
    fun text htext => hplain text (texts_stripNamespace htext)
  exact ⟨hkind, _, substitute_of_plain hcanonical htexts,
    mergeLabels_of_labelled h.labelled.stripNamespace hcanonical⟩

/-- What a second expansion makes of an object. -/
structure Relocated (before after : Json) : Prop where
  kept : RefersInNamespace before → after = before
  lost : ¬RefersInNamespace before → after = withoutNamespace before

theorem SettledObject.relocated (h : SettledObject labels object) :
    Relocated object (stripNamespace object) := by
  rcases stripNamespace_cases h.canonical with ⟨hrefers, hsame⟩ | ⟨hnot, hwithout⟩
  · exact ⟨fun _ => hsame, fun hno => absurd hrefers hno⟩
  · exact ⟨fun hrefers => absurd hrefers hnot, fun _ => hwithout⟩

end Objects

/-! ## Settled templates -/

/-- What holds of a template that was expanded without a problem. -/
structure Settled (t : Template) : Prop where
  labels : t.labels.Ordered
  objects : ∀ object ∈ t.objects, SettledObject t.labels object
  required : ∀ p ∈ t.parameters, p.required = true → p.hasValue = true

/-- Nothing is left to be done in a template: every object has a kind, no value can be generated,
and no text refers to a parameter. -/
structure Resolved (t : Template) : Prop where
  kind : ∀ object ∈ t.objects, (object.getString? "kind").isSome
  ready : ∀ p ∈ t.parameters, p.hasValue = true ∨ p.directive? = none
  unreferenced : ∀ text ∈ t.texts, ∀ p ∈ t.parameters, ¬RefersTo text p.name

section Templates

variable {State : Type} (generators : GeneratorSet State) {state : State} {t : Template}

theorem settled_of_expand (h : (t.expand generators state).2 = .ok ()) :
    Settled (t.expand generators state).1 := by
  have hfilled := filled_of_expand generators h
  have hordered : (t.expand generators state).1.labels.Ordered := by
    rw [hfilled.labels]
    exact Dict.ordered_ofList _
  refine ⟨hordered, fun object hobject => ?_, fun p hp => ?_⟩
  · obtain ⟨before, hbefore⟩ := hfilled.object hobject
    exact hbefore.settled hordered
  · have hnone := (expand_result generators state t).1.mp h
    have hparameters : (t.expand generators state).1.parameters = _ :=
      expandTemplate_parameters generators state t
    rw [hparameters] at hp
    exact prepareParameters_required generators (prepared_of_expanded generators hnone) p hp

/-- Where no parameter is referred to, no name that has a value is. -/
theorem Resolved.plain (h : Resolved t) {text : String} (htext : text ∈ t.texts) :
    Plain t.values text := by
  intro name value hfind
  obtain ⟨p, hp, hentry⟩ := List.mem_map.mp (Dict.mem_of_mem_ofList (Dict.mem_of_find? hfind))
  obtain ⟨rfl, -⟩ := Prod.mk.inj hentry
  exact h.unreferenced text htext p hp

theorem Settled.filled (h : Settled t) (hresolved : Resolved t) :
    Filled t { t with objects := t.objects.map stripNamespace } where
  message := by
    cases hmessage : t.message? with
    | none => rfl
    | some message =>
        have hmem := Template.mem_texts_of_message hmessage
        exact congrArg some (substituteText_of_plain (hresolved.plain hmem)).symm
  labels := by
    refine (substituteLabels_of_plain h.labels fun label hlabel => ?_).symm
    obtain ⟨hkey, hvalue⟩ := Template.mem_texts_of_label hlabel
    exact ⟨hresolved.plain hkey, hresolved.plain hvalue⟩
  objects := by
    rw [List.forall₂_map_right_iff, List.forall₂_same]
    intro object hobject
    refine (h.objects object hobject).filled (hresolved.kind object hobject) fun text htext => ?_
    exact hresolved.plain (Template.mem_texts_of_object hobject htext)

/-- In a settled template with nothing left to be done an expansion only takes namespaces away. -/
theorem Settled.expand_eq (h : Settled t) (hresolved : Resolved t) :
    t.expand generators state = ({ t with objects := t.objects.map stripNamespace }, .ok ()) := by
  have hprepared := prepareParameters_of_ready generators 0 state hresolved.ready h.required
  exact expand_of_filled generators (congrArg Prod.fst hprepared) (h.filled hresolved)

end Templates

/-- When an expansion has left nothing to be done, a second one succeeds with whatever generators.
It changes nothing but namespaces: every object loses its own, unless that still refers to a name.
-/
theorem expand_again {State Other : Type} {generators : GeneratorSet State} {state : State}
    {t : Template} (hok : (t.expand generators state).2 = .ok ())
    (hresolved : Resolved (t.expand generators state).1) (others : GeneratorSet Other)
    (other : Other) :
    let once := (t.expand generators state).1
    ∃ objects, once.expand others other = ({ once with objects := objects }, .ok ()) ∧
      List.Forall₂ Relocated once.objects objects := by
  intro once
  have hsettled : Settled once := settled_of_expand generators hok
  refine ⟨once.objects.map stripNamespace, hsettled.expand_eq others hresolved, ?_⟩
  rw [List.forall₂_map_right_iff, List.forall₂_same]
  exact fun object hobject => (hsettled.objects object hobject).relocated

/-- Two objects whose namespaces refer to a parameter and to a name that is not declared. -/
def namespacedPair : Template :=
  { Template.empty with
    message? := some "in $\x7bA\x7d"
    parameters := [⟨"A", none, none, some "x", none, none, true⟩]
    labels := [("app", "$\x7bA\x7d")]
    objects := [
      .object [("kind", .string "Pod"),
        ("metadata", .object [("namespace", .string "$\x7bA\x7d")])],
      .object [("kind", .string "Pod"),
        ("metadata", .object [("namespace", .string "$\x7bB\x7d")])]] }

theorem expand_again_namespacedPair :
    let once := namespacedPair.expand noGenerators ()
    once.2 = .ok () ∧ Resolved once.1 ∧
      ∃ objects, once.1.expand noGenerators () = ({ once.1 with objects := objects }, .ok ()) ∧
        List.Forall₂ Relocated once.1.objects objects := by
  intro once
  have hok : once.2 = .ok () := rfl
  have htexts : once.1.texts = ["in x", "app", "x",
      "kind", "Pod", "metadata", "labels", "app", "x", "namespace", "x",
      "kind", "Pod", "metadata", "labels", "app", "x", "namespace", "$\x7bB\x7d"] := by
    decide +kernel
  have hresolved : Resolved once.1 := by
    refine ⟨by decide +kernel, by decide +kernel, ?_⟩
    rw [htexts]
    show ∀ text ∈ _, ∀ p ∈ namespacedPair.parameters, ¬RefersTo text p.name
    decide +kernel
  exact ⟨hok, hresolved, expand_again hok hresolved noGenerators ()⟩

-- The namespace that came from the parameter is lost the second time.
example :
    (((namespacedPair.expand noGenerators ()).1.expand noGenerators ()).1.objects.map fun object =>
      (object.get? "metadata").bind (·.getString? "namespace")) = [none, some "$\x7bB\x7d"] := by
  decide +kernel

end Expansion

end ResourceTemplate

import Mathlib.Data.List.Forall2
import ResourceTemplate.Proofs.Expansion.Independence
import ResourceTemplate.Proofs.Expansion.Parameter

/-!
# Expansions without problems

`Filled` relates a template to what an expansion makes of it when it meets no problem.  The values
are those of the parameters that are left behind.  They stand in the message and the labels, and
every object has a kind, was substituted in, and has taken the labels.

An expansion succeeds exactly when its parameters can be prepared and its objects can be filled, and
it leaves the filled template behind.
-/

namespace ResourceTemplate.Expansion

open Expression

/-- What becomes of an object that is expanded without a problem. -/
structure FilledObject (values labels : Dict String) (before after : Json) : Prop where
  kind : (before.getString? "kind").isSome
  content : ∃ done, substitute values (stripNamespace before) = .ok done ∧
    mergeLabels labels done = .ok after

/-- What becomes of a template that is expanded without a problem. -/
structure Filled (t last : Template) : Prop where
  message : last.message? = t.message?.map (substituteText last.values)
  labels : last.labels = substituteLabels last.values t.labels
  objects : List.Forall₂ (FilledObject last.values last.labels) t.objects last.objects

section Objects

variable {values labels : Dict String} {before after : Json}

theorem FilledObject.expandObject_eq (h : FilledObject values labels before after) :
    expandObject values labels before = (after, []) := by
  obtain ⟨done, hsubstitute, hmerge⟩ := h.content
  obtain ⟨kind, hkind⟩ := Option.isSome_iff_exists.mp h.kind
  simp [expandObject, hkind, substituteObject, hsubstitute, labelObject, hmerge]

theorem filledObject_of_expandObject (h : (expandObject values labels before).2 = []) :
    FilledObject values labels before (expandObject values labels before).1 := by
  cases hkind : before.getString? "kind" with
  | none => simp [expandObject, hkind] at h
  | some kind =>
      simp only [expandObject, hkind, List.append_eq_nil_iff] at h ⊢
      obtain ⟨hsubstituted, hlabelled⟩ := h
      refine ⟨by rw [hkind]; rfl, ?_⟩
      unfold substituteObject at hsubstituted hlabelled ⊢
      cases hsubstitute : substitute values (stripNamespace before) with
      | error cause => simp [hsubstitute] at hsubstituted
      | ok done =>
          simp only [hsubstitute, labelObject] at hlabelled ⊢
          cases hmerge : mergeLabels labels done with
          | error cause => simp [hmerge] at hlabelled
          | ok labelled => exact ⟨done, rfl, hmerge⟩

theorem expandObjects_of_filled {befores afters : List Json}
    (h : List.Forall₂ (FilledObject values labels) befores afters) (index : Nat) :
    expandObjects values labels index befores = (afters, []) := by
  induction h generalizing index with
  | nil => rfl
  | cons hfirst _ ih =>
      simp only [expandObjects, hfirst.expandObject_eq, ih (index + 1)]
      rfl

theorem filled_of_expandObjects {befores : List Json} {index : Nat}
    (h : (expandObjects values labels index befores).2 = []) :
    List.Forall₂ (FilledObject values labels) befores
      (expandObjects values labels index befores).1 := by
  induction befores generalizing index with
  | nil => exact .nil
  | cons first rest ih =>
      obtain ⟨hfirst, hrest⟩ := List.append_eq_nil_iff.mp h
      exact .cons (filledObject_of_expandObject (List.map_eq_nil_iff.mp hfirst)) (ih hrest)

end Objects

/-- Every object of a filled template is what became of some object. -/
theorem Filled.object {t last : Template} (h : Filled t last) {after : Json}
    (hmem : after ∈ last.objects) :
    ∃ before, FilledObject last.values last.labels before after := by
  have hobjects := h.objects
  generalize t.objects = befores, last.objects = afters at hobjects hmem
  induction hobjects with
  | nil => exact absurd hmem List.not_mem_nil
  | cons hfirst _ ih =>
      rcases List.mem_cons.mp hmem with rfl | hmem
      · exact ⟨_, hfirst⟩
      · exact ih hmem

section Templates

variable {State : Type} (generators : GeneratorSet State) {state : State} {t : Template}

/-- A successful expansion fills the template. -/
theorem filled_of_expand (h : (t.expand generators state).2 = .ok ()) :
    Filled t (t.expand generators state).1 := by
  have hnone : (expandTemplate generators state t).2 = [] :=
    (expand_result generators state t).1.mp h
  have hcontent := expandTemplate_of_prepared (prepared_of_expanded generators hnone)
  rw [hcontent] at hnone
  show Filled t (expandTemplate generators state t).1
  rw [hcontent]
  exact ⟨rfl, rfl, filled_of_expandObjects hnone⟩

/-- A template whose parameters need nothing, and which can be filled, is expanded to what fills it.
-/
theorem expand_of_filled {message? : Option String} {labels : Dict String} {objects : List Json}
    (hprepared : (prepareParameters generators 0 state t.parameters).1 = (t.parameters, []))
    (hfilled : Filled t { t with message? := message?, labels := labels, objects := objects }) :
    t.expand generators state =
      ({ t with message? := message?, labels := labels, objects := objects }, .ok ()) := by
  have hmessage : message? = t.message?.map (substituteText t.values) := hfilled.message
  have hlabels : labels = substituteLabels t.values t.labels := hfilled.labels
  have hobjects : expandObjects t.values labels 0 t.objects = (objects, []) :=
    expandObjects_of_filled hfilled.objects 0
  have hcontent : expandContent t =
      ({ t with message? := message?, labels := labels, objects := objects }, []) := by
    simp only [expandContent, ← hlabels, ← hmessage, hobjects]
  have hexpanded : expandTemplate generators state t = expandContent t := by
    simp only [expandTemplate, hprepared, List.isEmpty_nil, if_true]
  simp only [Template.expand, hexpanded, hcontent, List.isEmpty_nil, if_true]

end Templates

end ResourceTemplate.Expansion

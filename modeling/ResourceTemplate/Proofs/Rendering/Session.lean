import Mathlib.Data.List.Forall2
import Mathlib.Logic.Relation
import ResourceTemplate.Proofs.Expansion.Independence
import ResourceTemplate.Proofs.Expansion.Parameter

/-!
# Sessions

A session is any sequence of renderings, expansions and overrides of one template.  Each step works
on what the step before has left behind, also when that step has failed halfway.

`Carried` says what every step, and therefore every session, does to a template: the parameters take
their courses in their places, and so do the objects, each of which is expanded any number of
times.  The main statement spells this out.  An object without a kind is never touched again, and a
parameter that has a value keeps it until it is given another one.
-/

namespace ResourceTemplate.Session

open Expression Expansion

/-- A step of a session.  Every rendering and every expansion brings generators of its own. -/
inductive Step : Type 1 where
  | render {State : Type} (generators : GeneratorSet State) (state : State) (scheme : Scheme)
      (filters : List Filter) (values : Dict String)
  | expand {State : Type} (generators : GeneratorSet State) (state : State)
  | override (name value : String)

namespace Step

/-- The template that a step leaves behind. -/
def perform (t : Template) : Step → Template
  | render generators state scheme filters values =>
      (t.render generators state scheme filters values).1
  | expand generators state => (t.expand generators state).1
  | override name value => t.override name value

/-- The result of the expansion that a step makes, if it makes one. -/
def expansion? (t : Template) : Step → Option (Except (List Problem) Unit)
  | render generators state _ _ values => some ((t.overrideAll values).expand generators state).2
  | expand generators state => some (t.expand generators state).2
  | override _ _ => none

/-- The explicit value that a step gives to a name. -/
def given : Step → String → Option String
  | render _ _ _ _ values => lastGiven values
  | expand _ _ => fun _ => none
  | override name value => fun other => if other = name then some value else none

end Step

/-- The template that a session leaves behind. -/
def run (t : Template) (steps : List Step) : Template := steps.foldl Step.perform t

/-- The explicit value that a session gives to a name; the last step that gives one counts. -/
def given : List Step → String → Option String
  | [] => fun _ => none
  | step :: rest => fun name => (given rest name).or (step.given name)

/-! ## What happens to a template -/

/-- An object after one expansion, with whatever values and labels. -/
def Expanded (before after : Json) : Prop :=
  ∃ values labels, after = (expandObject values labels before).1

/-- What happens to a template when names are given explicit values. -/
structure Carried (given : String → Option String) (t last : Template) : Prop where
  apiVersion : last.apiVersion = t.apiVersion
  kind : last.kind = t.kind
  metadata : last.metadata = t.metadata
  length : last.parameters.length = t.parameters.length
  course : ∀ {i : Nat} {p q : Parameter}, t.parameters[i]? = some p →
    last.parameters[i]? = some q → Course (givenAt given t.names i) p q
  objects : List.Forall₂ (Relation.ReflTransGen Expanded) t.objects last.objects

theorem givenAt_none (names : List String) (i : Nat) : givenAt (fun _ => none) names i = none := by
  unfold givenAt
  split
  · rfl
  · split <;> rfl

/-- Objects that are expanded in their places, and then again, are expanded in their places. -/
theorem expanded_trans {before middle after : List Json}
    (h : List.Forall₂ (Relation.ReflTransGen Expanded) before middle)
    (hnext : List.Forall₂ (Relation.ReflTransGen Expanded) middle after) :
    List.Forall₂ (Relation.ReflTransGen Expanded) before after := by
  induction h generalizing after with
  | nil => exact hnext
  | cons hfirst _ ih =>
      cases hnext with
      | cons hsecond hothers => exact .cons (hfirst.trans hsecond) (ih hothers)

/-- Whatever becomes of the objects afterwards, a rendering leaves the expanded template behind. -/
theorem render_template {State : Type} (generators : GeneratorSet State) (state : State)
    (scheme : Scheme) (filters : List Filter) (values : Dict String) (t : Template) :
    (t.render generators state scheme filters values).1 =
      ((t.overrideAll values).expand generators state).1 := by
  unfold Template.render
  dsimp only
  split <;> rfl

namespace Carried

variable {t middle last : Template} {first second : String → Option String}

theorem refl (t : Template) : Carried (fun _ => none) t t where
  apiVersion := rfl
  kind := rfl
  metadata := rfl
  length := rfl
  course := by
    intro i p q hp hq
    obtain rfl := Option.some.inj (hp.symm.trans hq)
    rw [givenAt_none]
    exact .kept p
  objects := List.forall₂_same.mpr fun _ _ => .refl

theorem names (h : Carried first t last) : last.names = t.names := by
  refine List.ext_getElem? fun i => ?_
  unfold Template.names
  rw [List.getElem?_map, List.getElem?_map]
  cases hp : t.parameters[i]? with
  | none =>
      have hle : last.parameters.length ≤ i := by
        rw [h.length]
        exact List.getElem?_eq_none_iff.mp hp
      rw [List.getElem?_eq_none_iff.mpr hle]
  | some p =>
      have hlt : i < last.parameters.length := by
        rw [h.length]
        exact (List.getElem?_eq_some_iff.mp hp).1
      have hq := List.getElem?_eq_getElem hlt
      rw [hq, Option.map_some, Option.map_some, (h.course hp hq).name]

theorem trans (h : Carried first t middle) (hnext : Carried second middle last) :
    Carried (fun name => (second name).or (first name)) t last where
  apiVersion := hnext.apiVersion.trans h.apiVersion
  kind := hnext.kind.trans h.kind
  metadata := hnext.metadata.trans h.metadata
  length := hnext.length.trans h.length
  course := by
    intro i p r hp hr
    have hlt : i < middle.parameters.length := by
      rw [h.length]
      exact (List.getElem?_eq_some_iff.mp hp).1
    have hq := List.getElem?_eq_getElem hlt
    have hcourse := (h.course hp hq).trans (hnext.course hq hr)
    rw [h.names] at hcourse
    rw [givenAt_or]
    exact hcourse
  objects := expanded_trans h.objects hnext.objects

/-! ## What the operations do -/

theorem override (t : Template) (name value : String) :
    Carried (fun other => if other = name then some value else none) t (t.override name value) where
  apiVersion := rfl
  kind := rfl
  metadata := rfl
  length := by
    have hnames := congrArg List.length (t.names_override name value)
    simpa [Template.names] using hnames
  course := by
    intro i p q hp hq
    rw [Template.getElem?_override, hp] at hq
    obtain rfl := Option.some.inj hq
    exact Course.overriddenBy p _
  objects := List.forall₂_same.mpr fun _ _ => .refl

theorem overrideAll (t : Template) (values : Dict String) :
    Carried (lastGiven values) t (t.overrideAll values) where
  apiVersion := by rw [t.overrideAll_eq values]
  kind := by rw [t.overrideAll_eq values]
  metadata := by rw [t.overrideAll_eq values]
  length := t.length_overrideAll values
  course := by
    intro i p q hp hq
    rw [Template.getElem?_overrideAll, hp] at hq
    obtain rfl := Option.some.inj hq
    exact Course.overriddenBy p _
  objects := by
    rw [t.overrideAll_eq values]
    exact List.forall₂_same.mpr fun _ _ => .refl

/-- An expansion that fails with the parameters has not touched the objects; any other has expanded
each of them in its place. -/
theorem expand {State : Type} (generators : GeneratorSet State) (state : State) (t : Template) :
    Carried (fun _ => none) t (t.expand generators state).1 where
  apiVersion := by
    unfold Template.expand expandTemplate
    dsimp only
    split <;> rfl
  kind := by
    unfold Template.expand expandTemplate
    dsimp only
    split <;> rfl
  metadata := by
    unfold Template.expand expandTemplate
    dsimp only
    split <;> rfl
  length := by
    have hparameters := expandTemplate_parameters generators state t
    exact (congrArg List.length hparameters).trans (prepareParameters_length generators 0 state _)
  course := by
    intro i p q hp hq
    rw [givenAt_none]
    have hparameters := expandTemplate_parameters generators state t
    rw [show (t.expand generators state).1.parameters = _ from hparameters] at hq
    exact prepareParameters_course generators 0 state hp hq
  objects := by
    have hexpanded : ∀ (values labels : Dict String) (index : Nat) (objects : List Json),
        List.Forall₂ (Relation.ReflTransGen Expanded) objects
          (expandObjects values labels index objects).1 := by
      intro values labels index objects
      induction objects generalizing index with
      | nil => exact .nil
      | cons object rest ih => exact .cons (.single ⟨values, labels, rfl⟩) (ih (index + 1))
    unfold Template.expand expandTemplate
    dsimp only
    split
    · exact hexpanded _ _ 0 t.objects
    · exact List.forall₂_same.mpr fun _ _ => .refl

theorem render {State : Type} (generators : GeneratorSet State) (state : State) (scheme : Scheme)
    (filters : List Filter) (values : Dict String) (t : Template) :
    Carried (lastGiven values) t (t.render generators state scheme filters values).1 := by
  rw [render_template]
  exact (overrideAll t values).trans (expand generators state _)

theorem perform (t : Template) (step : Step) : Carried step.given t (step.perform t) := by
  cases step with
  | render generators state scheme filters values =>
      exact render generators state scheme filters values t
  | expand generators state => exact expand generators state t
  | override name value => exact override t name value

theorem run (t : Template) (steps : List Step) : Carried (given steps) t (run t steps) := by
  induction steps generalizing t with
  | nil => exact refl t
  | cons step rest ih => exact (perform t step).trans (ih (step.perform t))

end Carried

theorem run_append (t : Template) (first second : List Step) :
    run t (first ++ second) = run (run t first) second :=
  List.foldl_append

/-! ## What is kept -/

/-- An object without a kind stays what it is. -/
theorem Expanded.eq_of_kindless {before after : Json} (h : Expanded before after)
    (hkind : before.getString? "kind" = none) : after = before := by
  obtain ⟨values, labels, rfl⟩ := h
  simp [expandObject, hkind]

theorem eq_of_kindless {before after : Json} (h : Relation.ReflTransGen Expanded before after)
    (hkind : before.getString? "kind" = none) : after = before := by
  induction h with
  | refl => rfl
  | tail _ hlast ih =>
      rw [ih] at hlast
      exact hlast.eq_of_kindless hkind

/-- What a session keeps of a parameter that it gives an explicit value, or none. -/
structure ParameterKept (given? : Option String) (p q : Parameter) : Prop where
  name : q.name = p.name
  displayName : q.displayName? = p.displayName?
  description : q.description? = p.description?
  expression : q.expression? = p.expression?
  required : q.required = p.required
  /-- The value of a parameter that is set, or for which nothing can be generated, changes only to
  the explicit one.  Nothing is generated for it again, not even when the explicit value is empty.
  -/
  value : p.hasValue = true ∨ p.directive? = none → q.value? = given?.or p.value?
  /-- The generator is forgotten with an explicit value, and only then. -/
  generate : q.generate? = if given?.isSome then none else p.generate?

/-- What a session keeps of a template when it gives names explicit values. -/
structure Kept (given : String → Option String) (t last : Template) : Prop where
  apiVersion : last.apiVersion = t.apiVersion
  kind : last.kind = t.kind
  metadata : last.metadata = t.metadata
  parameters_length : last.parameters.length = t.parameters.length
  parameter : ∀ i p q, t.parameters[i]? = some p → last.parameters[i]? = some q →
    ParameterKept (givenAt given t.names i) p q
  /-- Every object is what expansions have made of the object in its place. -/
  objects : List.Forall₂ (Relation.ReflTransGen Expanded) t.objects last.objects
  kindless : ∀ (i : Nat) (object : Json), t.objects[i]? = some object →
    object.getString? "kind" = none → last.objects[i]? = some object

theorem parameterKept_of_course {given? : Option String} {p q : Parameter}
    (h : Course given? p q) : ParameterKept given? p q where
  name := h.name
  displayName := h.displayName
  description := h.description
  expression := h.expression
  required := h.required
  value := h.value
  generate := h.generate

theorem Carried.kept {given : String → Option String} {t last : Template}
    (h : Carried given t last) : Kept given t last where
  apiVersion := h.apiVersion
  kind := h.kind
  metadata := h.metadata
  parameters_length := h.length
  parameter := fun _ _ _ hp hq => parameterKept_of_course (h.course hp hq)
  objects := h.objects
  kindless := by
    intro i object hobject hkind
    obtain ⟨hlt, hget⟩ := List.getElem?_eq_some_iff.mp hobject
    have hlt' : i < last.objects.length := by
      rw [← h.objects.length_eq]
      exact hlt
    have hplace := h.objects.get hlt hlt'
    rw [List.get_eq_getElem, List.get_eq_getElem, hget] at hplace
    rw [List.getElem?_eq_getElem hlt', eq_of_kindless hplace hkind]

/-- After a step whose expansion has succeeded every required parameter has a value. -/
theorem required_of_expansion {t : Template} {step : Step}
    (h : step.expansion? t = some (.ok ())) :
    ∀ p ∈ (step.perform t).parameters, p.required = true → p.hasValue = true := by
  have hexpand : ∀ {State : Type} (generators : GeneratorSet State) (state : State) (s : Template),
      (s.expand generators state).2 = .ok () → ∀ p ∈ (s.expand generators state).1.parameters,
        p.required = true → p.hasValue = true := by
    intro State generators state s hok p hp
    have hnone := (expand_result generators state s).1.mp hok
    rw [show (s.expand generators state).1.parameters = _ from
      expandTemplate_parameters generators state s] at hp
    exact prepareParameters_required generators (prepared_of_expanded generators hnone) p hp
  cases step with
  | render generators state scheme filters values =>
      show ∀ p ∈ (t.render generators state scheme filters values).1.parameters, _
      rw [render_template]
      exact hexpand generators state _ (Option.some.inj h)
  | expand generators state => exact hexpand generators state t (Option.some.inj h)
  | override name value => simp [Step.expansion?] at h

/-- Between any two points of a session a template keeps what makes it up.  Parameters and objects
stay in their places; a parameter that is set changes its value only when it is overridden, and then
loses its generator; an object without a kind is left alone.  Whenever an expansion of the session
succeeds, every required parameter has a value. -/
theorem session_keeps (t : Template) (before during : List Step) :
    Kept (given during) (run t before) (run t (before ++ during)) ∧
      ∀ step : Step, step.expansion? (run t before) = some (.ok ()) →
        ∀ p ∈ (run t (before ++ [step])).parameters, p.required = true → p.hasValue = true := by
  refine ⟨?_, ?_⟩
  · rw [run_append]
    exact (Carried.run (run t before) during).kept
  · intro step hok
    rw [run_append]
    exact required_of_expansion hok

end ResourceTemplate.Session

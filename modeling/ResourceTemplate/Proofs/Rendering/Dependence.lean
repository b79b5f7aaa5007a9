import ResourceTemplate.Proofs.Rendering.Session

/-!
# What a rendering depends on

A rendering takes explicit values by name, and generators that may keep a state.  Two results say
how little of either counts.

The explicit values act as a finite map on the declared names.  In whatever order they are given,
and whether or not values of other names come with them, the rendering and the template that it
leaves behind are the same, also when the rendering fails.  Overriding itself is spelled out by
`Overridden`: the first parameter of a name takes the value that the name is given, the empty one
included, and forgets its generator; nothing else changes.

The generators count only for a parameter that awaits a value once the explicit ones are set.  When
none does, any two sets of generators, in any states, lead to the same rendering.
-/

namespace ResourceTemplate

/-! ## Explicit values -/

/-- What overriding makes of a template when no name is given twice. -/
structure Overridden (values : Dict String) (t last : Template) : Prop where
  others : last = { t with parameters := last.parameters }
  length : last.parameters.length = t.parameters.length
  /-- The first parameter of a name that is given a value. -/
  given : ∀ (i : Nat) (p : Parameter) (value : String), t.parameters[i]? = some p →
    t.names.idxOf p.name = i → (p.name, value) ∈ values →
      last.parameters[i]? = some { p with value? := some value, generate? := none }
  /-- A parameter whose name is given no value, or stands at an earlier position too. -/
  kept : ∀ (i : Nat) (p : Parameter), t.parameters[i]? = some p →
    (t.names.idxOf p.name = i → ∀ value, (p.name, value) ∉ values) →
      last.parameters[i]? = some p

theorem Template.overridden_overrideAll {values : Dict String}
    (hkeys : (values.map Prod.fst).Nodup) (t : Template) :
    Overridden values t (t.overrideAll values) where
  others := t.overrideAll_eq values
  length := t.length_overrideAll values
  given := by
    intro i p value hp hfirst hentry
    have hname := Template.getElem?_names hp
    have hgiven : givenAt (lastGiven values) t.names i = some value := by
      simp only [givenAt, hname, hfirst, if_true]
      exact (lastGiven_eq_some_iff hkeys).mpr hentry
    rw [Template.getElem?_overrideAll, hp, hgiven]
    rfl
  kept := by
    intro i p hp hnot
    have hname := Template.getElem?_names hp
    have hnone : givenAt (lastGiven values) t.names i = none := by
      simp only [givenAt, hname]
      split
      next hfirst =>
        refine Option.eq_none_iff_forall_ne_some.mpr fun value hgiven => ?_
        exact hnot hfirst value ((lastGiven_eq_some_iff hkeys).mp hgiven)
      next => rfl
    rw [Template.getElem?_overrideAll, hp, hnone]
    rfl

namespace Rendering

open Expression Expansion

variable {State : Type} (generators : GeneratorSet State) (state : State) (scheme : Scheme)
  (filters : List Filter)

/-- Of the explicit values a rendering takes what they give to the declared names. -/
theorem render_congr_given {t : Template} {values others : Dict String}
    (h : ∀ name ∈ t.names, lastGiven others name = lastGiven values name) :
    t.render generators state scheme filters others =
      t.render generators state scheme filters values := by
  unfold Template.render
  rw [Template.overrideAll_congr h]

/-- Explicit values act as a finite map on the declared names, whatever becomes of the rendering:
their order does not count, and neither do entries of other names.  They change the first parameter
of each declared name that they give a value, and nothing else. -/
theorem given_values_act_as_map {values : Dict String} (hkeys : (values.map Prod.fst).Nodup)
    (t : Template) :
    (∀ others : Dict String, others.Perm values →
      t.render generators state scheme filters others =
        t.render generators state scheme filters values) ∧
      t.render generators state scheme filters (values.filter fun entry => entry.1 ∈ t.names) =
        t.render generators state scheme filters values ∧
      Overridden values t (t.overrideAll values) := by
  refine ⟨?_, ?_, t.overridden_overrideAll hkeys⟩
  · intro others horder
    exact render_congr_given generators state scheme filters fun name _ =>
      lastGiven_of_perm hkeys horder name
  · refine render_congr_given generators state scheme filters fun name hname => ?_
    exact lastGiven_filter (fun name => decide (name ∈ t.names)) (decide_eq_true hname) values

/-- A template that declares a name twice and another one once. -/
def threeParameters : Template :=
  { Template.empty with
    message? := some "$\x7bA\x7d and $\x7bB\x7d"
    parameters := [
      ⟨"A", none, none, some "a", some "expression", none, false⟩,
      ⟨"B", none, none, none, some "expression", none, true⟩,
      ⟨"A", none, none, some "last", none, none, false⟩] }

/-- Values for both names and for one that is not declared. -/
def threeValues : Dict String := [("B", "b"), ("C", "c"), ("A", "")]

theorem given_values_act_as_map_threeValues :
    (threeValues.map Prod.fst).Nodup ∧
      threeParameters.render noGenerators () .empty [] [("A", ""), ("B", "b"), ("C", "c")] =
        threeParameters.render noGenerators () .empty [] threeValues ∧
      threeParameters.render noGenerators () .empty [] [("B", "b"), ("A", "")] =
        threeParameters.render noGenerators () .empty [] threeValues ∧
      (threeParameters.overrideAll threeValues).parameters[0]? =
        some ⟨"A", none, none, some "", none, none, false⟩ ∧
      (threeParameters.overrideAll threeValues).parameters[2]? =
        some ⟨"A", none, none, some "last", none, none, false⟩ := by
  have hkeys : (threeValues.map Prod.fst).Nodup := by decide
  obtain ⟨horder, hdeclared, hoverridden⟩ :=
    given_values_act_as_map noGenerators () .empty [] hkeys threeParameters
  refine ⟨hkeys, horder _ (by decide), hdeclared, ?_, ?_⟩
  · exact hoverridden.given 0 _ "" rfl (by decide) (by decide)
  · exact hoverridden.kept 2 _ rfl fun hfirst => absurd hfirst (by decide)

end Rendering

/-! ## Generators -/

/-- Whether a parameter awaits a generated value: it has no value or the empty one, and it names a
generator. -/
structure Parameter.Awaits (p : Parameter) : Prop where
  unset : p.value? = none ∨ p.value? = some ""
  directive : ∃ name, p.generate? = some name ∧ name ≠ ""

theorem Parameter.not_awaits_iff (p : Parameter) :
    ¬p.Awaits ↔ p.hasValue = true ∨ p.directive? = none := by
  have hunset : (p.value? = none ∨ p.value? = some "") ↔ p.hasValue = false := by
    cases hvalue : p.value? with
    | none => simp [Parameter.hasValue, Parameter.currentValue, hvalue]
    | some value => simp [Parameter.hasValue, Parameter.currentValue, hvalue]
  have hdirective : (∃ name, p.generate? = some name ∧ name ≠ "") ↔ p.directive? ≠ none := by
    cases hgenerate : p.generate? with
    | none => simp [Parameter.directive?, hgenerate]
    | some name => simp [Parameter.directive?, hgenerate]
  have hawaits : p.Awaits ↔ p.hasValue = false ∧ p.directive? ≠ none := by
    rw [← hunset, ← hdirective]
    exact ⟨fun h => ⟨h.unset, h.directive⟩, fun h => ⟨h.1, h.2⟩⟩
  rw [hawaits, not_and_or, Bool.not_eq_false, not_not]

instance (p : Parameter) : Decidable p.Awaits :=
  decidable_of_iff (¬(p.hasValue = true ∨ p.directive? = none))
    (by rw [← p.not_awaits_iff, not_not])

namespace Rendering

open Expression Expansion

/-- When no parameter awaits a value once the explicit ones are set, a rendering is the same with
any other generators, in whatever state they are. -/
theorem render_eq_of_not_awaits {State Other : Type} (generators : GeneratorSet State) (state : State)
    (others : GeneratorSet Other) (other : Other) (scheme : Scheme) (filters : List Filter)
    {values : Dict String} {t : Template}
    (hnone : ∀ p ∈ (t.overrideAll values).parameters, ¬p.Awaits) :
    t.render generators state scheme filters values =
      t.render others other scheme filters values := by
  have hidle : ∀ p ∈ (t.overrideAll values).parameters,
      p.hasValue = true ∨ p.directive? = none :=
    fun p hp => p.not_awaits_iff.mp (hnone p hp)
  -- Both sets leave the parameters as they are, and the expansion sees no more of them than that.
  have hprepared : (prepareParameters generators 0 state (t.overrideAll values).parameters).1 =
      (prepareParameters others 0 other (t.overrideAll values).parameters).1 := by
    rw [prepareParameters_of_idle generators 0 state hidle,
      prepareParameters_of_idle others 0 other hidle]
  have hexpanded : (t.overrideAll values).expand generators state =
      (t.overrideAll values).expand others other := by
    simp only [Template.expand, expandTemplate_congr generators hprepared]
  unfold Template.render
  rw [hexpanded]

/-- Three parameters, each with a generator: the first is unset until it is given a value, the
second names the empty generator and lacks a value that it must have, and the third is set. -/
def nothingToGenerate : Template :=
  { Template.empty with
    message? := some "$\x7bA\x7d$\x7bB\x7d$\x7bC\x7d"
    parameters := [
      ⟨"A", none, none, none, some "expression", some "[a-z]\x7b8\x7d", false⟩,
      ⟨"B", none, none, some "", some "", none, true⟩,
      ⟨"C", none, none, some "c", some "expression", some "[a-z]\x7b8\x7d", true⟩] }

theorem render_eq_of_not_awaits_nothingToGenerate :
    (∀ p ∈ (nothingToGenerate.overrideAll [("A", "")]).parameters, ¬p.Awaits) ∧
      nothingToGenerate.render (.ofDict (standardGenerators 1)) (standardGenerators 1) .empty []
          [("A", "")] =
        nothingToGenerate.render noGenerators () .empty [] [("A", "")] := by
  have hnone : ∀ p ∈ (nothingToGenerate.overrideAll [("A", "")]).parameters, ¬p.Awaits := by decide
  exact ⟨hnone, render_eq_of_not_awaits _ _ noGenerators () .empty [] hnone⟩

end Rendering

end ResourceTemplate

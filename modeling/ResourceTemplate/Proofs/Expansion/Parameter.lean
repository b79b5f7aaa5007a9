import ResourceTemplate.Expansion.Basic
import ResourceTemplate.Proofs.Template.Override

/-!
# What becomes of a parameter

`Course` says how a parameter can change.  An explicit value replaces what it had, and its generator
is forgotten.  Without one, an unset parameter that names a generator may get a value, and a
parameter that is set stays as it is.  Courses follow each other to a course, in which the later
explicit value counts.

Preparing the parameters of a template takes each of them through a course without an explicit
value.  When no problem is met, every required parameter has a value afterwards.  When no value is
to be generated, the parameters stay as they are, and only the required ones without a value are
told.
-/

namespace ResourceTemplate

/-- How a parameter can change when it is given an explicit value, or none. -/
inductive Course : Option String → Parameter → Parameter → Prop where
  | kept (p : Parameter) : Course none p p
  | generated (p : Parameter) (value : String) (hunset : p.hasValue = false)
      (hdirective : p.directive?.isSome) : Course none p { p with value? := some value }
  | given (p : Parameter) (value : String) : Course (some value) p (p.override value)

namespace Course

variable {first second given? : Option String} {p q r : Parameter}

theorem overriddenBy (p : Parameter) (given? : Option String) :
    Course given? p (p.overriddenBy given?) := by
  cases given? with
  | none => exact .kept p
  | some value => exact .given p value

/-- A course follows another. -/
theorem trans (h : Course first p q) (hnext : Course second q r) :
    Course (second.or first) p r := by
  cases h with
  | kept => simpa using hnext
  | generated _ value hunset hdirective =>
      -- What was generated may be empty, and then be generated anew.
      cases hnext with
      | kept => exact .generated p value hunset hdirective
      | generated _ later _ _ => exact .generated p later hunset hdirective
      | given _ later => exact .given p later
  | given _ value =>
      cases hnext with
      | kept => exact .given p value
      | generated _ later _ hdirective =>
          -- The generator was forgotten with the explicit value.
          simp [Parameter.directive?, Parameter.override] at hdirective
      | given _ later => exact .given p later

/-! ## What a course keeps -/

theorem name (h : Course given? p q) : q.name = p.name := by
  cases h <;> rfl

theorem displayName (h : Course given? p q) : q.displayName? = p.displayName? := by
  cases h <;> rfl

theorem description (h : Course given? p q) : q.description? = p.description? := by
  cases h <;> rfl

theorem expression (h : Course given? p q) : q.expression? = p.expression? := by
  cases h <;> rfl

theorem required (h : Course given? p q) : q.required = p.required := by
  cases h <;> rfl

/-- A parameter that is set, or that names no generator, has the explicit value afterwards, or the
value that it had. -/
theorem value (h : Course given? p q) (hset : p.hasValue = true ∨ p.directive? = none) :
    q.value? = given?.or p.value? := by
  cases h with
  | kept => rfl
  | generated _ value hunset hdirective =>
      rcases hset with hset | hnone
      · rw [hset] at hunset
        exact absurd hunset (by decide)
      · rw [hnone] at hdirective
        exact absurd hdirective (by decide)
  | given => rfl

theorem generate (h : Course given? p q) :
    q.generate? = if given?.isSome then none else p.generate? := by
  cases h <;> rfl

theorem value_of_given {value : String} (h : Course (some value) p q) : q.value? = some value := by
  cases h
  rfl

end Course

namespace Expansion

open Expression

variable {State : Type} (generators : GeneratorSet State)

/-! ## One parameter -/

theorem prepareParameter_of_hasValue (state : State) {p : Parameter} (h : p.hasValue = true) :
    prepareParameter generators state p = ((p, none), state) := by
  simp [prepareParameter, h]

/-- Preparing a parameter takes it through a course without an explicit value.  If no problem is met
and the parameter is required, it has a value then. -/
theorem prepareParameter_spec (state : State) (p : Parameter) :
    Course none p (prepareParameter generators state p).1.1 ∧
      ((prepareParameter generators state p).1.2 = none →
        (prepareParameter generators state p).1.1.required = true →
          (prepareParameter generators state p).1.1.hasValue = true) := by
  cases hset : p.hasValue with
  | true =>
      rw [prepareParameter_of_hasValue generators state hset]
      exact ⟨.kept p, fun _ _ => hset⟩
  | false =>
      -- What is split last is whether a required value is missing; only then is a problem met.
      unfold prepareParameter
      simp only [hset, Bool.false_eq_true, if_false]
      cases hdirective : p.directive? with
      | none =>
          dsimp only
          split
          next hmissing => exact ⟨.kept p, fun h => absurd h (by simp)⟩
          next hfine =>
            refine ⟨.kept p, fun _ hrequired => ?_⟩
            have hfree : p.required = false := by simpa using hfine
            exact absurd (hfree.symm.trans hrequired) (by decide)
      | some name =>
          have hsome : p.directive?.isSome := by rw [hdirective]; rfl
          dsimp only
          cases generators.call? name with
          | none => exact ⟨.kept p, fun h => absurd h (by simp)⟩
          | some call =>
              dsimp only
              rcases call (p.expression?.getD "") state with ⟨answer, next⟩
              cases answer with
              | error cause => exact ⟨.kept p, fun h => absurd h (by simp)⟩
              | ok value =>
                  dsimp only
                  split
                  next hmissing =>
                    exact ⟨.generated p value hset hsome, fun h => absurd h (by simp)⟩
                  next hfine =>
                    refine ⟨.generated p value hset hsome, fun _ hrequired => ?_⟩
                    have hfilled := (Bool.not_eq_true _).mp hfine
                    simpa [show p.required = true from hrequired] using hfilled

/-- What is told of a parameter for which no value is generated. -/
def requirement (p : Parameter) : Option ParameterProblem :=
  if p.required && !p.hasValue then some (.missingValue p.name) else none

theorem requirement_eq_none {p : Parameter} (h : p.required = true → p.hasValue = true) :
    requirement p = none := by
  cases hrequired : p.required with
  | false => simp [requirement, hrequired]
  | true => simp [requirement, h hrequired]

/-- Of a parameter that is set, or that names no generator, it is only told whether it lacks a
value. -/
theorem prepareParameter_of_idle (state : State) {p : Parameter}
    (hidle : p.hasValue = true ∨ p.directive? = none) :
    prepareParameter generators state p = ((p, requirement p), state) := by
  cases hset : p.hasValue with
  | true =>
      rw [prepareParameter_of_hasValue generators state hset, requirement_eq_none fun _ => hset]
  | false =>
      have hdirective : p.directive? = none := hidle.resolve_left (by simp [hset])
      simp only [prepareParameter, requirement, hset, hdirective, Bool.false_eq_true, if_false]
      split <;> rfl

/-! ## All parameters -/

theorem prepareParameters_length (index : Nat) (state : State) (ps : List Parameter) :
    (prepareParameters generators index state ps).1.1.length = ps.length := by
  induction ps generalizing index state with
  | nil => rfl
  | cons p rest ih => simp only [prepareParameters, List.length_cons, ih]

/-- Every parameter keeps its position and takes a course without an explicit value. -/
theorem prepareParameters_course (index : Nat) (state : State) {ps : List Parameter} {i : Nat}
    {p q : Parameter} (hp : ps[i]? = some p)
    (hq : (prepareParameters generators index state ps).1.1[i]? = some q) : Course none p q := by
  induction ps generalizing index state i with
  | nil => simp at hp
  | cons first rest ih =>
      cases i with
      | zero =>
          obtain rfl := Option.some.inj hp
          obtain rfl := Option.some.inj hq
          exact (prepareParameter_spec generators state first).1
      | succ i => exact ih (index + 1) (prepareParameter generators state first).2 hp hq

/-- If no problem is met, every required parameter has a value. -/
theorem prepareParameters_required {index : Nat} {state : State} {ps : List Parameter}
    (hnone : (prepareParameters generators index state ps).1.2 = []) :
    ∀ q ∈ (prepareParameters generators index state ps).1.1, q.required = true →
      q.hasValue = true := by
  induction ps generalizing index state with
  | nil => exact fun q hq => absurd hq List.not_mem_nil
  | cons first rest ih =>
      simp only [prepareParameters, List.append_eq_nil_iff, Option.toList_eq_nil_iff,
        Option.map_eq_none_iff] at hnone
      intro q hq
      rcases List.mem_cons.mp hq with rfl | hq
      · exact (prepareParameter_spec generators state first).2 hnone.1
      · exact ih hnone.2 q hq

/-- What is told of parameters for which no values are generated, from a position on. -/
def requirements (index : Nat) : List Parameter → List Problem
  | [] => []
  | p :: rest =>
      ((requirement p).map (Problem.ofParameter index)).toList ++ requirements (index + 1) rest

/-- Where no value is generated, neither the generators nor their state are looked at. -/
theorem prepareParameters_of_idle (index : Nat) (state : State) {ps : List Parameter}
    (hidle : ∀ p ∈ ps, p.hasValue = true ∨ p.directive? = none) :
    prepareParameters generators index state ps = ((ps, requirements index ps), state) := by
  induction ps generalizing index with
  | nil => rfl
  | cons p rest ih =>
      have hfirst := prepareParameter_of_idle generators state (hidle p List.mem_cons_self)
      have hrest := ih (index + 1) fun q hq => hidle q (List.mem_cons_of_mem p hq)
      simp only [prepareParameters, hfirst, hrest, requirements]

theorem requirements_eq_nil (index : Nat) {ps : List Parameter}
    (h : ∀ p ∈ ps, p.required = true → p.hasValue = true) : requirements index ps = [] := by
  induction ps generalizing index with
  | nil => rfl
  | cons p rest ih =>
      have hfirst := requirement_eq_none (h p List.mem_cons_self)
      have hrest := ih (index + 1) fun q hq => h q (List.mem_cons_of_mem p hq)
      simp [requirements, hfirst, hrest]

/-- Parameters that need nothing are prepared. -/
theorem prepareParameters_of_ready (index : Nat) (state : State) {ps : List Parameter}
    (hready : ∀ p ∈ ps, p.hasValue = true ∨ p.directive? = none)
    (hrequired : ∀ p ∈ ps, p.required = true → p.hasValue = true) :
    prepareParameters generators index state ps = ((ps, []), state) := by
  rw [prepareParameters_of_idle generators index state hready, requirements_eq_nil index hrequired]

/-- A parameter that is set stays where it is, and what becomes of the others does not depend on it.
-/
theorem prepareParameters_past_set (index : Nat) (state : State) (before after : List Parameter) :
    ∃ before' after' problems last, before'.length = before.length ∧
      ∀ p : Parameter, p.hasValue = true →
        prepareParameters generators index state (before ++ p :: after) =
          ((before' ++ p :: after', problems), last) := by
  induction before generalizing index state with
  | nil =>
      -- Nothing is asked for the parameter itself, so those behind it start from the same state.
      rcases hafter : prepareParameters generators (index + 1) state after with
        ⟨⟨after', problems⟩, last⟩
      refine ⟨[], after', problems, last, rfl, fun p hp => ?_⟩
      have hfirst := prepareParameter_of_hasValue generators state hp
      simp only [List.nil_append, prepareParameters, hfirst, hafter]
      rfl
  | cons first rest ih =>
      rcases hfirst : prepareParameter generators state first with ⟨⟨ready, problem?⟩, next⟩
      obtain ⟨before', after', problems, last, hlength, hrest⟩ := ih (index + 1) next
      refine ⟨ready :: before', after', (problem?.map (Problem.ofParameter index)).toList ++ problems,
        last, ?_, fun p hp => ?_⟩
      · rw [List.length_cons, List.length_cons, hlength]
      · simp only [List.cons_append, prepareParameters, hfirst, hrest p hp]

/-! ## The parameters of a template -/

/-- An expansion leaves the prepared parameters behind, whatever becomes of the objects. -/
theorem expandTemplate_parameters (state : State) (t : Template) :
    (expandTemplate generators state t).1.parameters =
      (prepareParameters generators 0 state t.parameters).1.1 := by
  unfold expandTemplate
  dsimp only
  split <;> rfl

/-- The generators come into an expansion only through the parameters that they prepare. -/
theorem expandTemplate_congr {Other : Type} {others : GeneratorSet Other} {other : Other}
    {state : State} {t : Template}
    (h : (prepareParameters generators 0 state t.parameters).1 =
      (prepareParameters others 0 other t.parameters).1) :
    expandTemplate generators state t = expandTemplate others other t := by
  simp only [expandTemplate, h]

/-- An expansion that meets no problem met none with the parameters. -/
theorem prepared_of_expanded {state : State} {t : Template}
    (h : (expandTemplate generators state t).2 = []) :
    (prepareParameters generators 0 state t.parameters).1.2 = [] := by
  by_contra hproblems
  have hsome : (prepareParameters generators 0 state t.parameters).1.2.isEmpty = false := by
    simpa using hproblems
  simp only [expandTemplate, hsome, Bool.false_eq_true, if_false] at h
  exact hproblems h

end Expansion

end ResourceTemplate

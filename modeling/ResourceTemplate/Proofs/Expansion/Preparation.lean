import ResourceTemplate.Proofs.Expansion.Parameter
import ResourceTemplate.Rendering

/-!
# The parameters are prepared one after the other

Preparing the parameters of a template visits each of them once, in order.  A `Visit` holds what a
parameter was and what it became, the call of a generator that was made for it, and the problem that
is told of it.  `Visit.Faithful` says which call that is and which problem, from the parameter and
the answer alone.

Nothing is assumed of the generators: they are a machine that may keep any state and answer as it
likes. The calls of all visits are threaded through its states, so a call that fails moves the
machine on just as one that succeeds does, and no other call is made.

When a problem is told, an expansion ends there.  It leaves the visited parameters behind and
everything else as it was.
-/

namespace ResourceTemplate

namespace Parameter

/-- A parameter has no value, or the empty one. -/
def Unset (p : Parameter) : Prop := p.value? = none ∨ p.value? = some ""

/-- A parameter names a generator. -/
def Names (p : Parameter) (generator : String) : Prop :=
  p.generate? = some generator ∧ generator ≠ ""

theorem unset_iff {p : Parameter} : p.Unset ↔ p.hasValue = false := by
  cases hvalue : p.value? with
  | none => simp [Unset, hasValue, currentValue, hvalue]
  | some value => simp [Unset, hasValue, currentValue, hvalue]

theorem names_iff {p : Parameter} {generator : String} :
    p.Names generator ↔ p.directive? = some generator := by
  cases hgenerate : p.generate? with
  | none => simp [Names, directive?, hgenerate]
  | some name =>
      simp only [Names, directive?, hgenerate, Option.some.injEq, Option.filter_some,
        decide_eq_true_eq]
      constructor
      · rintro ⟨rfl, hne⟩
        rw [if_pos hne]
      · intro h
        split at h
        next hne => exact ⟨Option.some.inj h, Option.some.inj h ▸ hne⟩
        next => exact absurd h (by simp)

/-- A parameter names one generator at most. -/
theorem Names.unique {p : Parameter} {first second : String} (h : p.Names first)
    (hsecond : p.Names second) : first = second :=
  Option.some.inj (h.1.symm.trans hsecond.1)

end Parameter

namespace Expansion

open Expression

variable {State : Type}

/-! ## Calls -/

/-- A call of a generator: which one is asked for what, and what it answers; the state in which the
call finds the generators, and the one in which it leaves them. -/
structure Call (State : Type) where
  generator : String
  expression : String
  before : State
  answer : Except GeneratorError String
  after : State

/-- The value that a call gives. -/
def Call.value? (c : Call State) : Option String :=
  match c.answer with
  | .ok value => some value
  | .error _ => none

/-- Calls that follow each other: every call finds the generators in the state in which the one
before left them, whatever that one answered. -/
inductive Threaded (generators : GeneratorSet State) :
    State → List (Call State) → State → Prop where
  | done (state : State) : Threaded generators state [] state
  | call {c : Call State} {rest : List (Call State)} {last : State}
      {ask : String → State → Except GeneratorError String × State}
      (hknown : generators.call? c.generator = some ask)
      (hanswer : ask c.expression c.before = (c.answer, c.after))
      (hrest : Threaded generators c.after rest last) : Threaded generators c.before (c :: rest) last

theorem Threaded.append {generators : GeneratorSet State} {first middle last : State}
    {calls more : List (Call State)} (h : Threaded generators first calls middle)
    (hmore : Threaded generators middle more last) :
    Threaded generators first (calls ++ more) last := by
  induction h with
  | done => exact hmore
  | call hknown hanswer _ ih => exact .call hknown hanswer (ih hmore)

/-! ## Visits -/

/-- What happens to a parameter: the call that is made for it, what it becomes, and what is told of
it. -/
structure Visit (State : Type) where
  parameter : Parameter
  call? : Option (Call State)
  result : Parameter
  problem? : Option ParameterProblem

/-- What is told of a visited parameter. -/
inductive Visit.Tells (generators : GeneratorSet State) (v : Visit State) :
    ParameterProblem → Prop where
  /-- The parameter is unset and names a generator that is not known. -/
  | unknown {name : String} (hunset : v.parameter.Unset) (hnames : v.parameter.Names name)
      (hunknown : generators.call? name = none) :
      Tells generators v (.unknownGenerator name v.parameter.name)
  /-- The generator that was called failed. -/
  | failed {c : Call State} {cause : GeneratorError} (hcall : v.call? = some c)
      (hanswer : c.answer = .error cause) : Tells generators v (.notGenerated cause)
  /-- A required parameter is still unset after a generator has answered, or names none. -/
  | missing (hrequired : v.parameter.required = true) (hunset : v.result.Unset)
      (hcall : (∀ name, ¬v.parameter.Names name) ∨
        ∃ c value, v.call? = some c ∧ c.answer = .ok value) :
      Tells generators v (.missingValue v.parameter.name)

/-- Which call is made for a parameter. -/
structure Visit.Calls (generators : GeneratorSet State) (v : Visit State) : Prop where
  /-- A generator is called exactly for an unset parameter that names a known one. -/
  called : v.call?.isSome ↔ v.parameter.Unset ∧
    ∃ name, v.parameter.Names name ∧ (generators.call? name).isSome
  /-- It is the one that the parameter names, and it is asked for the parameter's expression. -/
  asked : ∀ c, v.call? = some c → v.parameter.Names c.generator ∧
    c.expression = v.parameter.expression?.getD ""

/-- Which call is made for a parameter, what the parameter becomes by it, and what is told of it. -/
structure Visit.Faithful (generators : GeneratorSet State) (v : Visit State) : Prop
    extends v.Calls generators where
  /-- Nothing but the value of the parameter changes, and that only to the value that the call
  gives. -/
  result : v.result =
    { v.parameter with value? := (v.call?.bind Call.value?).or v.parameter.value? }
  told : ∀ problem, v.problem? = some problem ↔ v.Tells generators problem

/-- An unset parameter with which something is wrong: its generator is not known or fails, or it is
required and remains unset. -/
def Visit.Flawed (generators : GeneratorSet State) (v : Visit State) : Prop :=
  v.parameter.Unset ∧
    ((∃ name, v.parameter.Names name ∧ generators.call? name = none) ∨
      (∃ c cause, v.call? = some c ∧ c.answer = .error cause) ∨
      v.parameter.required = true ∧ v.result.Unset)

section Visit

variable {generators : GeneratorSet State} {v : Visit State} {c : Call State}

theorem Visit.Calls.unset (h : v.Calls generators) (hcall : v.call? = some c) :
    v.parameter.Unset :=
  (h.called.mp (by rw [hcall]; rfl)).1

theorem Visit.Calls.call?_of_set (h : v.Calls generators) (hset : ¬v.parameter.Unset) :
    v.call? = none :=
  Option.eq_none_iff_forall_ne_some.mpr fun _ hcall => hset (h.unset hcall)

/-- No call is made for a parameter whose generator is not known. -/
theorem Visit.Calls.known (h : v.Calls generators) (hcall : v.call? = some c) {name : String}
    (hnames : v.parameter.Names name) : generators.call? name ≠ none := by
  obtain ⟨-, other, hother, hknown⟩ := h.called.mp (by rw [hcall]; rfl)
  rw [hnames.unique hother]
  exact Option.isSome_iff_ne_none.mp hknown

/-- Where no generator is named, or one has answered with a value, none is unknown and none has
failed. -/
theorem Visit.Calls.of_answered (h : v.Calls generators)
    (hanswered : (∀ name, ¬v.parameter.Names name) ∨
      ∃ c value, v.call? = some c ∧ c.answer = .ok value) :
    (∀ name, v.parameter.Names name → generators.call? name ≠ none) ∧
      ∀ c, v.call? = some c → ∀ cause, c.answer ≠ .error cause := by
  rcases hanswered with hnone | ⟨c, value, hcall, hvalue⟩
  · exact ⟨fun name hnames => absurd hnames (hnone name),
      fun c hcall => absurd (h.asked c hcall).1 (hnone _)⟩
  · refine ⟨fun name hnames => h.known hcall hnames, fun other hother cause => ?_⟩
    obtain rfl := Option.some.inj (hcall.symm.trans hother)
    rw [hvalue]
    simp

/-- At most one problem is told of a parameter. -/
theorem Visit.Tells.unique {first second : ParameterProblem} (hcalls : v.Calls generators)
    (hfirst : v.Tells generators first) (hsecond : v.Tells generators second) : first = second := by
  cases hfirst with
  | unknown _ hnames hunknown =>
      cases hsecond with
      | unknown _ hother _ => rw [hnames.unique hother]
      | failed hcall _ => exact absurd hunknown (hcalls.known hcall hnames)
      | missing _ _ hanswered => exact absurd hunknown ((hcalls.of_answered hanswered).1 _ hnames)
  | failed hcall hanswer =>
      cases hsecond with
      | unknown _ hnames hunknown => exact absurd hunknown (hcalls.known hcall hnames)
      | failed hother hfailed =>
          obtain rfl := Option.some.inj (hcall.symm.trans hother)
          rw [Except.error.inj (hanswer.symm.trans hfailed)]
      | missing _ _ hanswered => exact absurd hanswer ((hcalls.of_answered hanswered).2 _ hcall _)
  | missing _ _ hanswered =>
      cases hsecond with
      | unknown _ hnames hunknown => exact absurd hunknown ((hcalls.of_answered hanswered).1 _ hnames)
      | failed hcall hanswer => exact absurd hanswer ((hcalls.of_answered hanswered).2 _ hcall _)
      | missing => rfl

/-- A problem that is told of a parameter is the only one. -/
theorem Visit.Tells.told {problem : ParameterProblem} (h : v.Tells generators problem)
    (hcalls : v.Calls generators) (hproblem : v.problem? = some problem) (other : ParameterProblem) :
    v.problem? = some other ↔ v.Tells generators other := by
  rw [hproblem, Option.some.injEq]
  exact ⟨fun heq => heq ▸ h, fun hother => h.unique hcalls hother⟩

/-- A parameter that is set is not changed. -/
theorem Visit.Faithful.result_of_set (h : v.Faithful generators) (hset : ¬v.parameter.Unset) :
    v.result = v.parameter := by
  rw [h.result, h.call?_of_set hset]
  rfl

/-- A problem is told of exactly the parameters with which something is wrong. -/
theorem Visit.Faithful.isSome_problem_iff (h : v.Faithful generators) :
    v.problem?.isSome ↔ v.Flawed generators := by
  rw [Option.isSome_iff_exists]
  constructor
  · rintro ⟨problem, hproblem⟩
    cases (h.told problem).mp hproblem with
    | unknown hunset hnames hunknown => exact ⟨hunset, Or.inl ⟨_, hnames, hunknown⟩⟩
    | failed hcall hanswer => exact ⟨h.unset hcall, Or.inr (Or.inl ⟨_, _, hcall, hanswer⟩)⟩
    | missing hrequired hunset _ =>
        refine ⟨?_, Or.inr (Or.inr ⟨hrequired, hunset⟩)⟩
        by_contra hset
        rw [h.result_of_set hset] at hunset
        exact hset hunset
  · rintro ⟨hunset, ⟨name, hnames, hunknown⟩ | ⟨c, cause, hcall, hanswer⟩ | ⟨hrequired, hempty⟩⟩
    · exact ⟨_, (h.told _).mpr (.unknown hunset hnames hunknown)⟩
    · exact ⟨_, (h.told _).mpr (.failed hcall hanswer)⟩
    · -- Why the parameter remains unset decides what is told of it.
      by_cases hnames : ∃ name, v.parameter.Names name
      · obtain ⟨name, hnames⟩ := hnames
        cases hknown : generators.call? name with
        | none => exact ⟨_, (h.told _).mpr (.unknown hunset hnames hknown)⟩
        | some ask =>
            have hcalled := h.called.mpr ⟨hunset, name, hnames, by rw [hknown]; rfl⟩
            obtain ⟨c, hcall⟩ := Option.isSome_iff_exists.mp hcalled
            cases hanswer : c.answer with
            | error cause => exact ⟨_, (h.told _).mpr (.failed hcall hanswer)⟩
            | ok value =>
                exact ⟨_, (h.told _).mpr
                  (.missing hrequired hempty (Or.inr ⟨c, value, hcall, hanswer⟩))⟩
      · have hnone : ∀ name, ¬v.parameter.Names name := fun name h => hnames ⟨name, h⟩
        exact ⟨_, (h.told _).mpr (.missing hrequired hempty (Or.inl hnone))⟩

end Visit

/-! ## One parameter -/

section Step

variable (generators : GeneratorSet State) (state : State)

theorem requirement_eq_some_iff {p : Parameter} {problem : ParameterProblem} :
    requirement p = some problem ↔
      p.required = true ∧ p.Unset ∧ problem = .missingValue p.name := by
  rw [Parameter.unset_iff, requirement]
  cases p.required <;> cases p.hasValue <;> simp [eq_comm]

theorem prepareParameter_of_unknown {p : Parameter} {name : String} (hunset : p.hasValue = false)
    (hdirective : p.directive? = some name) (hunknown : generators.call? name = none) :
    prepareParameter generators state p =
      ((p, some (.unknownGenerator name p.name)), state) := by
  simp [prepareParameter, hunset, hdirective, hunknown]

theorem prepareParameter_of_error {p : Parameter} {name : String}
    {ask : String → State → Except GeneratorError String × State} {cause : GeneratorError}
    {next : State} (hunset : p.hasValue = false) (hdirective : p.directive? = some name)
    (hknown : generators.call? name = some ask)
    (hanswer : ask (p.expression?.getD "") state = (.error cause, next)) :
    prepareParameter generators state p = ((p, some (.notGenerated cause)), next) := by
  simp [prepareParameter, hunset, hdirective, hknown, hanswer]

theorem prepareParameter_of_ok {p : Parameter} {name value : String}
    {ask : String → State → Except GeneratorError String × State} {next : State}
    (hunset : p.hasValue = false) (hdirective : p.directive? = some name)
    (hknown : generators.call? name = some ask)
    (hanswer : ask (p.expression?.getD "") state = (.ok value, next)) :
    prepareParameter generators state p =
      (({ p with value? := some value }, requirement { p with value? := some value }), next) := by
  simp only [prepareParameter, hunset, hdirective, hknown, hanswer, Bool.false_eq_true, if_false,
    requirement]
  split <;> rfl

/-! ### The four courses of a visit -/

variable {generators}

/-- For a parameter that is set, or names no generator, none is called. -/
theorem faithful_of_idle {p : Parameter} (hidle : p.hasValue = true ∨ p.directive? = none) :
    (⟨p, none, p, requirement p⟩ : Visit State).Faithful generators := by
  have hnot : ∀ {name : String}, p.Unset → ¬p.Names name := by
    intro name hunset hnames
    rcases hidle with hset | hnone
    · exact absurd ((Parameter.unset_iff.mp hunset).symm.trans hset) (by decide)
    · exact absurd ((Parameter.names_iff.mp hnames).symm.trans hnone) (by simp)
  refine ⟨⟨⟨fun h => absurd h (by simp), ?_⟩, by simp⟩, rfl, fun problem => ?_⟩
  · rintro ⟨hunset, name, hnames, -⟩
    exact absurd hnames (hnot hunset)
  · rw [requirement_eq_some_iff]
    constructor
    · rintro ⟨hrequired, hunset, rfl⟩
      exact .missing hrequired hunset (Or.inl fun name => hnot hunset)
    · intro htells
      cases htells with
      | unknown hunset hnames _ => exact absurd hnames (hnot hunset)
      | failed hcall _ => exact absurd hcall (by simp)
      | missing hrequired hunset _ => exact ⟨hrequired, hunset, rfl⟩

/-- A generator that is not known is told, and nothing changes. -/
theorem faithful_of_unknown {p : Parameter} {name : String} (hunset : p.Unset)
    (hnames : p.Names name) (hunknown : generators.call? name = none) :
    (⟨p, none, p, some (.unknownGenerator name p.name)⟩ : Visit State).Faithful generators := by
  have hcalls : (⟨p, none, p, some (.unknownGenerator name p.name)⟩ : Visit State).Calls
      generators := by
    refine ⟨⟨fun h => absurd h (by simp), ?_⟩, by simp⟩
    rintro ⟨-, other, hother, hknown⟩
    rw [hother.unique hnames, hunknown] at hknown
    exact absurd hknown (by simp)
  exact ⟨hcalls, rfl, (Visit.Tells.unknown hunset hnames hunknown).told hcalls rfl⟩

/-- For an unset parameter that names a known generator, that one is called. -/
theorem calls_of_known {p result : Parameter} {problem? : Option ParameterProblem} {name : String}
    {ask : String → State → Except GeneratorError String × State} {c : Call State} (hunset : p.Unset)
    (hnames : p.Names name) (hknown : generators.call? name = some ask) (hname : c.generator = name)
    (hexpression : c.expression = p.expression?.getD "") :
    (⟨p, some c, result, problem?⟩ : Visit State).Calls generators := by
  refine ⟨⟨fun _ => ⟨hunset, name, hnames, by rw [hknown]; rfl⟩, fun _ => rfl⟩, ?_⟩
  intro other hother
  obtain rfl := Option.some.inj hother
  exact ⟨hname ▸ hnames, hexpression⟩

/-- A failure of the generator is told, and the parameter does not change. -/
theorem faithful_of_failed {p : Parameter} {c : Call State} {cause : GeneratorError}
    (hanswer : c.answer = .error cause)
    (hcalls : (⟨p, some c, p, some (.notGenerated cause)⟩ : Visit State).Calls generators) :
    (⟨p, some c, p, some (.notGenerated cause)⟩ : Visit State).Faithful generators := by
  have hvalue : c.value? = none := by rw [Call.value?, hanswer]
  refine ⟨hcalls, ?_, (Visit.Tells.failed rfl hanswer).told hcalls rfl⟩
  simp [hvalue]

/-- A value that the generator gives is taken; if it is empty, a requirement can still be told. -/
theorem faithful_of_answered {p q : Parameter} {c : Call State} {value : String}
    (hanswer : c.answer = .ok value) (hq : q = { p with value? := some value })
    (hcalls : (⟨p, some c, q, requirement q⟩ : Visit State).Calls generators) :
    (⟨p, some c, q, requirement q⟩ : Visit State).Faithful generators := by
  have hvalue : c.value? = some value := by rw [Call.value?, hanswer]
  refine ⟨hcalls, by simp [hvalue, hq], fun problem => ?_⟩
  rw [requirement_eq_some_iff, hq]
  constructor
  · rintro ⟨hrequired, hunset, rfl⟩
    exact .missing hrequired hunset (Or.inr ⟨c, value, rfl, hanswer⟩)
  · intro htells
    cases htells with
    | unknown _ hnames hunknown => exact absurd hunknown (hcalls.known rfl hnames)
    | failed hcall hfailed =>
        obtain rfl := Option.some.inj hcall
        exact absurd (hanswer.symm.trans hfailed) (by simp)
    | missing hrequired hunset _ => exact ⟨hrequired, hunset, rfl⟩

variable (generators)

/-- Preparing a parameter is a visit to it. -/
theorem exists_visit (p : Parameter) :
    ∃ v : Visit State, v.parameter = p ∧ v.Faithful generators ∧
      Threaded generators state v.call?.toList (prepareParameter generators state p).2 ∧
      (prepareParameter generators state p).1 = (v.result, v.problem?) := by
  by_cases hidle : p.hasValue = true ∨ p.directive? = none
  · rw [prepareParameter_of_idle generators state hidle]
    exact ⟨_, rfl, faithful_of_idle hidle, .done state, rfl⟩
  · obtain ⟨hset, hsome⟩ := not_or.mp hidle
    have hvalue : p.hasValue = false := (Bool.not_eq_true _).mp hset
    have hunset : p.Unset := Parameter.unset_iff.mpr hvalue
    obtain ⟨name, hdirective⟩ := Option.ne_none_iff_exists'.mp hsome
    have hnames : p.Names name := Parameter.names_iff.mpr hdirective
    cases hknown : generators.call? name with
    | none =>
        rw [prepareParameter_of_unknown generators state hvalue hdirective hknown]
        exact ⟨_, rfl, faithful_of_unknown hunset hnames hknown, .done state, rfl⟩
    | some ask =>
        rcases hanswer : ask (p.expression?.getD "") state with ⟨answer, next⟩
        let c : Call State := ⟨name, p.expression?.getD "", state, answer, next⟩
        have hthreaded : Threaded generators c.before [c] c.after :=
          .call hknown hanswer (.done next)
        cases answer with
        | error cause =>
            rw [prepareParameter_of_error generators state hvalue hdirective hknown hanswer]
            exact ⟨⟨p, some c, p, _⟩, rfl,
              faithful_of_failed rfl (calls_of_known hunset hnames hknown rfl rfl), hthreaded, rfl⟩
        | ok value =>
            rw [prepareParameter_of_ok generators state hvalue hdirective hknown hanswer]
            exact ⟨⟨p, some c, _, _⟩, rfl,
              faithful_of_answered rfl rfl (calls_of_known hunset hnames hknown rfl rfl),
              hthreaded, rfl⟩

end Step

/-! ## All parameters -/

/-- The position of the parameter or object that a problem is told of. -/
def Problem.index : Problem → Nat
  | ofParameter index _ => index
  | ofObject index _ => index

/-- The problems that are told of visited parameters, the first of which has a given position. -/
def problemsOf (index : Nat) (visits : List (Visit State)) : List Problem :=
  (visits.zipIdx index).filterMap fun visited =>
    visited.1.problem?.map (Problem.ofParameter visited.2)

theorem problemsOf_cons (index : Nat) (v : Visit State) (rest : List (Visit State)) :
    problemsOf index (v :: rest) =
      (v.problem?.map (Problem.ofParameter index)).toList ++ problemsOf (index + 1) rest := by
  rw [problemsOf, List.zipIdx_cons, List.filterMap_cons]
  cases v.problem? <;> rfl

/-- The problem of a parameter stands at the position of that parameter. -/
theorem index_eq_of_told {visited : Visit State × Nat} {problem : Problem}
    (h : visited.1.problem?.map (Problem.ofParameter visited.2) = some problem) :
    problem.index = visited.2 := by
  obtain ⟨told, -, rfl⟩ := Option.map_eq_some_iff.mp h
  rfl

/-- At most one problem is told of each parameter, and they are told in the order of the parameters.
-/
theorem pairwise_problemsOf (index : Nat) (visits : List (Visit State)) :
    (problemsOf index visits).Pairwise fun p q => p.index < q.index := by
  have hpositions : (visits.zipIdx index).Pairwise fun v w => v.2 < w.2 := by
    rw [← List.pairwise_map, List.zipIdx_map_snd]
    exact List.pairwise_lt_range'
  refine hpositions.filterMap _ fun v w hlt p hp q hq => ?_
  rw [index_eq_of_told hp, index_eq_of_told hq]
  exact hlt

/-- Preparing parameters is a visit to each of them, one after the other. -/
theorem exists_visits (generators : GeneratorSet State) (index : Nat) (state : State)
    (ps : List Parameter) :
    ∃ visits : List (Visit State), visits.map Visit.parameter = ps ∧
      (∀ v ∈ visits, v.Faithful generators) ∧
      Threaded generators state (visits.filterMap Visit.call?)
        (prepareParameters generators index state ps).2 ∧
      (prepareParameters generators index state ps).1 =
        (visits.map Visit.result, problemsOf index visits) := by
  induction ps generalizing index state with
  | nil => exact ⟨[], rfl, by simp, .done state, rfl⟩
  | cons p rest ih =>
      obtain ⟨v, hparameter, hfaithful, hcall, hprepared⟩ := exists_visit generators state p
      obtain ⟨visits, hparameters, hvisits, hcalls, hrest⟩ :=
        ih (index + 1) (prepareParameter generators state p).2
      refine ⟨v :: visits, by rw [List.map_cons, hparameter, hparameters],
        List.forall_mem_cons.mpr ⟨hfaithful, hvisits⟩, ?_, ?_⟩
      · have hsplit : (v :: visits).filterMap Visit.call? =
            v.call?.toList ++ visits.filterMap Visit.call? := by
          rw [List.filterMap_cons]
          cases v.call? <;> rfl
        rw [hsplit]
        exact hcall.append hcalls
      · simp only [prepareParameters, hprepared, hrest, List.map_cons, problemsOf_cons]

/-- How a problem of a parameter is told: by the position of the parameter, and as something that is
required only when it is a missing value. -/
theorem report_ofParameter (index : Nat) (problem : ParameterProblem) :
    (Problem.ofParameter index problem).report.field = s!"template.parameters[{index}]" ∧
      ((Problem.ofParameter index problem).report.severity = .required ↔
        ∃ name, problem = .missingValue name) := by
  have hinvalid : ∀ told : Problem, told.report.severity = .invalid →
      told.report.severity ≠ .required := fun told h => by rw [h]; decide
  cases problem with
  | unknownGenerator generator name =>
      exact ⟨rfl, fun h => absurd h (hinvalid _ rfl), fun ⟨_, h⟩ => nomatch h⟩
  | notGenerated cause =>
      exact ⟨rfl, fun h => absurd h (hinvalid _ rfl), fun ⟨_, h⟩ => nomatch h⟩
  | missingValue name => exact ⟨rfl, fun _ => ⟨name, rfl⟩, fun _ => rfl⟩

/-- The parameters of a template are visited once each and in order, whatever the generators are.
The calls that the visits make are threaded through the states of the generators, and no other call
is made. A problem is told of exactly the parameters that are flawed, one of each and in their
order, and as a requirement only of one that remains unset without its generator being at fault.  If
any is told, the expansion has failed with these problems and has changed nothing but the values
that were generated. -/
theorem parameters_are_visited (generators : GeneratorSet State) (state : State) (t : Template) :
    let prepared := prepareParameters generators 0 state t.parameters
    ∃ visits : List (Visit State),
      visits.map Visit.parameter = t.parameters ∧ prepared.1.1 = visits.map Visit.result ∧
      Threaded generators state (visits.filterMap Visit.call?) prepared.2 ∧
      (∀ v ∈ visits, v.Faithful generators ∧ (v.problem?.isSome ↔ v.Flawed generators) ∧
        (¬v.parameter.Unset → v.result = v.parameter)) ∧
      prepared.1.2 = problemsOf 0 visits ∧
      prepared.1.2.Pairwise (fun p q => p.index < q.index) ∧
      (∀ index problem,
        (Problem.ofParameter index problem).report.field = s!"template.parameters[{index}]" ∧
        ((Problem.ofParameter index problem).report.severity = .required ↔
          ∃ name, problem = .missingValue name)) ∧
      (prepared.1.2 ≠ [] → t.expand generators state =
        ({ t with parameters := visits.map Visit.result }, .error prepared.1.2)) := by
  intro prepared
  obtain ⟨visits, hparameters, hfaithful, hthreaded, hprepared⟩ :=
    exists_visits generators 0 state t.parameters
  have hresults : prepared.1.1 = visits.map Visit.result := congrArg Prod.fst hprepared
  have hproblems : prepared.1.2 = problemsOf 0 visits := congrArg Prod.snd hprepared
  refine ⟨visits, hparameters, hresults, hthreaded, fun v hv => ?_, hproblems,
    hproblems ▸ pairwise_problemsOf 0 visits, report_ofParameter, fun hsome => ?_⟩
  · have h := hfaithful v hv
    exact ⟨h, h.isSome_problem_iff, h.result_of_set⟩
  · have hnonempty : (prepareParameters generators 0 state t.parameters).1.2.isEmpty = false := by
      simpa using hsome
    simp only [Template.expand, expandTemplate, hnonempty, Bool.false_eq_true, if_false]
    exact congrArg (fun ps => ({ t with parameters := ps }, _)) hresults

end Expansion

end ResourceTemplate

import ResourceTemplate.Expansion.Problem
import ResourceTemplate.Expression.Generator
import ResourceTemplate.Template.Basic

/-!
# Expanding a template

First every unset parameter that names a generator is given a value, and required parameters are
looked at.  If that meets a problem, nothing else happens.  Otherwise the values are put into the
message, the labels and every object.  The objects are treated one by one and apart from each other:
an object without a kind stays as it is; any other loses a fixed namespace, has its references
replaced, and is given the labels.  An object whose references cannot be replaced keeps them.

All problems of all objects are told, in the order of the objects.
-/

namespace ResourceTemplate.Expansion

open Expression

variable {State : Type}

/-- The value that a parameter gets, and the problem if it gets none.  Only an unset parameter asks
its generator. -/
def prepareParameter (generators : GeneratorSet State) (state : State) (p : Parameter) :
    (Parameter × Option ParameterProblem) × State :=
  let checked := fun (p : Parameter) =>
    if p.required && !p.hasValue then (p, some (ParameterProblem.missingValue p.name))
    else (p, none)
  if p.hasValue then ((p, none), state)
  else
    match p.directive? with
    | none => (checked p, state)
    | some name =>
        match generators.call? name with
        | none => ((p, some (.unknownGenerator name p.name)), state)
        | some call =>
            match call (p.expression?.getD "") state with
            | (.ok value, state) => (checked { p with value? := some value }, state)
            | (.error cause, state) => ((p, some (.notGenerated cause)), state)

/-- Prepare parameters in order, from a position on. -/
def prepareParameters (generators : GeneratorSet State) (index : Nat) (state : State) :
    List Parameter → (List Parameter × List Problem) × State
  | [] => (([], []), state)
  | p :: rest =>
      let first := prepareParameter generators state p
      let others := prepareParameters generators (index + 1) first.2 rest
      let problems := (first.1.2.map (Problem.ofParameter index)).toList
      ((first.1.1 :: others.1.1, problems ++ others.1.2), others.2)

/-- The labels of a template with the values put in.  Of several keys that come to the same text the
one that was greatest before gives the value. -/
def substituteLabels (values : Dict String) (labels : Dict String) : Dict String :=
  Dict.ofList (labels.map fun label =>
    (substituteText values label.1, substituteText values label.2))

/-- Replace the references in an object, or keep it and tell why. -/
def substituteObject (values : Dict String) (object : Json) : Json × List ObjectProblem :=
  match substitute values object with
  | .ok done => (done, [])
  | .error cause => (object, [.notSubstituted cause])

/-- Give an object the labels, or keep it and tell why. -/
def labelObject (labels : Dict String) (object : Json) : Json × List ObjectProblem :=
  match mergeLabels labels object with
  | .ok done => (done, [])
  | .error cause => (object, [.notLabelled cause])

/-- Expand one object. -/
def expandObject (values labels : Dict String) (object : Json) : Json × List ObjectProblem :=
  match object.getString? "kind" with
  | none => (object, [.missingKind])
  | some _ =>
      let substituted := substituteObject values (stripNamespace object)
      let labelled := labelObject labels substituted.1
      (labelled.1, substituted.2 ++ labelled.2)

/-- Expand objects in order, from a position on. -/
def expandObjects (values labels : Dict String) (index : Nat) :
    List Json → List Json × List Problem
  | [] => ([], [])
  | object :: rest =>
      let first := expandObject values labels object
      let others := expandObjects values labels (index + 1) rest
      (first.1 :: others.1, first.2.map (Problem.ofObject index) ++ others.2)

/-- Put the values of the parameters into message, labels and objects. -/
def expandContent (t : Template) : Template × List Problem :=
  let values := t.values
  let labels := substituteLabels values t.labels
  let objects := expandObjects values labels 0 t.objects
  ({ t with message? := t.message?.map (substituteText values), labels := labels,
            objects := objects.1 }, objects.2)

/-- Expand a template.  The template that is left behind and the problems are given together; the
expansion has succeeded when there are none. -/
def expandTemplate (generators : GeneratorSet State) (state : State) (t : Template) :
    Template × List Problem :=
  let prepared := (prepareParameters generators 0 state t.parameters).1
  let t := { t with parameters := prepared.1 }
  if prepared.2.isEmpty then expandContent t else (t, prepared.2)

end ResourceTemplate.Expansion

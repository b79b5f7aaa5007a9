import ResourceTemplate.Expansion.Placement
import ResourceTemplate.Expansion.Substitution
import ResourceTemplate.Expression.Alphabet

/-!
# Problems found while expanding a template

A problem is told by the place in the template, whether something is invalid or missing there, and a
detail.  Several problems are told together in brackets.
-/

namespace ResourceTemplate.Expansion

/-- Whether what stands at a place is wrong or missing. -/
inductive Severity where
  | invalid
  | required
deriving DecidableEq

/-- A problem as it is told. -/
structure FieldError where
  field : String
  severity : Severity
  detail : String
deriving DecidableEq

/-- How a problem is written. -/
def FieldError.display (e : FieldError) : String :=
  match e.severity with
  | .invalid => s!"{e.field}: Invalid value: {e.detail}"
  | .required => s!"{e.field}: Required value: {e.detail}"

/-- How problems are written together: one as it is, any other number in brackets. -/
def displayAll (errors : List FieldError) : String :=
  match errors with
  | [single] => single.display
  | many => "[" ++ String.intercalate ", " (many.map FieldError.display) ++ "]"

/-- What can be wrong with a parameter. -/
inductive ParameterProblem where
  | unknownGenerator (generator parameter : String)
  | notGenerated (cause : Expression.GeneratorError)
  | missingValue (parameter : String)
deriving DecidableEq

/-- What can be wrong with an object. -/
inductive ObjectProblem where
  | missingKind
  | notSubstituted (cause : SubstitutionError)
  | notLabelled (cause : LabelError)
deriving DecidableEq

/-- A problem of a template, with the position of the parameter or object that has it. -/
inductive Problem where
  | ofParameter (index : Nat) (problem : ParameterProblem)
  | ofObject (index : Nat) (problem : ObjectProblem)
deriving DecidableEq

/-- How a problem is told. -/
def Problem.report : Problem → FieldError
  | ofParameter index problem =>
      let field := s!"template.parameters[{index}]"
      match problem with
      | .unknownGenerator generator parameter =>
          ⟨field, .invalid, s!"unknown generator name '{generator}' for parameter {parameter}"⟩
      | .notGenerated cause => ⟨field, .invalid, cause.message⟩
      | .missingValue parameter =>
          ⟨field, .required,
            s!"{field}: parameter {parameter} is required and must be specified"⟩
  | ofObject index problem =>
      match problem with
      | .missingKind =>
          ⟨s!"item[{index}].objects", .invalid, "unable to handle object: missing kind"⟩
      | .notSubstituted cause => ⟨s!"item[{index}].parameters", .invalid, cause.message⟩
      | .notLabelled cause =>
          ⟨s!"item[{index}].labels", .invalid, s!"label could not be applied: {cause.message}"⟩

end ResourceTemplate.Expansion

import ResourceTemplate.Expansion.Basic
import ResourceTemplate.Manifest.Filter
import ResourceTemplate.Manifest.Scheme

/-!
# Rendering

Rendering a template sets the given values, expands the template, decodes its objects and keeps
those that the filters accept.  The template that is left behind is the expanded one, whatever
becomes of its objects afterwards.
-/

namespace ResourceTemplate

open Expression Expansion

/-- Why a template has no rendering. -/
inductive RenderError where
  | processing (problems : List Problem)
  | conversion (cause : ConversionError)
deriving DecidableEq

namespace RenderError

/-- The wording of problems met while processing. -/
def processingMessage (errors : List FieldError) : String :=
  "unable to process template: " ++ displayAll errors

/-- The wording of the error. -/
def message : RenderError → String
  | processing problems => processingMessage (problems.map Problem.report)
  | conversion cause =>
      "failed to convert template to external template object: " ++ cause.message

end RenderError

variable {State : Type}

/-- Expand a template, which has succeeded when no problem was met. -/
def Template.expand (generators : GeneratorSet State) (state : State) (t : Template) :
    Template × Except (List Problem) Unit :=
  let expanded := expandTemplate generators state t
  (expanded.1, if expanded.2.isEmpty then .ok () else .error expanded.2)

/-- Decode expanded objects and keep those that the filters accept. -/
def selectObjects (scheme : Scheme) (filters : List Filter) (objects : List Json) :
    Except RenderError (List RenderedObject) :=
  match scheme.convert objects with
  | .error cause => .error (.conversion cause)
  | .ok rendered => .ok (Filter.keep filters rendered)

/-- Render a template. -/
def Template.render (generators : GeneratorSet State) (state : State) (scheme : Scheme)
    (filters : List Filter) (values : Dict String) (t : Template) :
    Template × Except RenderError (List RenderedObject) :=
  let expanded := (t.overrideAll values).expand generators state
  match expanded.2 with
  | .error problems => (expanded.1, .error (.processing problems))
  | .ok () => (expanded.1, selectObjects scheme filters expanded.1.objects)

end ResourceTemplate

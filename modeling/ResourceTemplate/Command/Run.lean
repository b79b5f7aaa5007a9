import ResourceTemplate.Command.Failure
import ResourceTemplate.Command.Invocation
import ResourceTemplate.Command.Plan

/-!
# Running commands

A command renders its template with the values of the parameter file and of the command line, and
then either lists the objects or tells what would be applied.  The template is loaded before the
parameter file is looked at.  Which text is under a path is a matter of whoever runs the command.
-/

namespace ResourceTemplate.Command

open Expression Expansion

/-- The values that the parameters are given. -/
def RenderOptions.values (o : RenderOptions) (files : String → FileAnswer) :
    Except Failure (Dict String) :=
  match o.parameterFile? with
  | none => .ok (Assignment.values o.assignments)
  | some path =>
      match files path with
      | .error e => .error (.ofFileError path e)
      | .ok text =>
          (ParameterFile.values text o.assignments).mapError fun e => ⟨e.message path, []⟩

/-- Load, expand and filter a template. -/
def RenderOptions.render (o : RenderOptions) (seed : UInt64) (files : String → FileAnswer) :
    Except Failure (List RenderedObject) :=
  match Template.ofFile o.template (files o.template) with
  | .error e => .error (.ofLoadError o.template e)
  | .ok t =>
      match o.values files with
      | .error e => .error e
      | .ok values =>
          let generators := standardGenerators seed
          let rendered :=
            t.render (GeneratorSet.ofDict generators) generators .builtin o.filters values
          rendered.2.mapError (Failure.ofRenderError o.template)

/-- Run a command: the text that it writes, or why it failed. -/
def Invocation.run (invocation : Invocation) (seed : UInt64) (files : String → FileAnswer) :
    Except Failure String :=
  match invocation.rendering.render seed files with
  | .error e => .error e
  | .ok objects =>
      match invocation with
      | .process _ format => .ok (format.list objects)
      | .apply _ cluster =>
          if cluster.dryRun then .ok (planText (plan objects))
          else .error (.noCluster cluster.context?)

end ResourceTemplate.Command

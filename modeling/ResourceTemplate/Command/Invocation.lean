import ResourceTemplate.Command.UsageError
import ResourceTemplate.Manifest.Filter

/-!
# Invocations

What a command line asks for, when it asks for something that can be run.
-/

namespace ResourceTemplate

/-- The names of the forms of a listing. -/
def ListingFormat.ofName? (name : String) : Option ListingFormat :=
  if name = "yaml" then some .yaml else if name = "json" then some .json else none

namespace Command

/-- How a template is to be rendered. -/
structure RenderOptions where
  template : String
  parameterFile? : Option String
  assignments : List Assignment
  kinds : List String
  namespacesOnly : Bool
  skipNamespaces : Bool
deriving DecidableEq

namespace RenderOptions

/-- The filters that the objects have to pass. -/
def filters (o : RenderOptions) : List Filter :=
  (if o.kinds.isEmpty then [] else [Filter.kinds o.kinds])
    ++ (if o.namespacesOnly then [Filter.namespaces] else [])
    ++ (if o.skipNamespaces then [Filter.allButNamespaces] else [])

/-- The paths of the files that are read. -/
def paths (o : RenderOptions) : List String := o.template :: o.parameterFile?.toList

end RenderOptions

/-- Where the objects of a template are to be applied. -/
structure ClusterOptions where
  context? : Option String
  namespaceName? : Option String
  /-- Whether it is only told what would be applied. -/
  dryRun : Bool
deriving DecidableEq

/-- A command with all that it needs. -/
inductive Invocation where
  | process (options : RenderOptions) (format : ListingFormat)
  | apply (options : RenderOptions) (cluster : ClusterOptions)
deriving DecidableEq

/-- How the template of a command is to be rendered. -/
def Invocation.rendering : Invocation → RenderOptions
  | process options _ => options
  | apply options _ => options

end Command

end ResourceTemplate

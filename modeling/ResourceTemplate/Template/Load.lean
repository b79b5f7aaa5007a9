import ResourceTemplate.File.Basic
import ResourceTemplate.Template.Read
import ResourceTemplate.Yaml.Document

/-!
# Loading templates

A template is loaded from a file that holds it as a document.  A document that says that it is
something else than a template is refused.
-/

namespace ResourceTemplate

/-- Why a template could not be loaded. -/
inductive LoadError where
  | file (path : String) (cause : FileError)
  | document (path : String) (cause : Yaml.DecodeError)
  | otherKind (kind : String)
deriving DecidableEq

namespace LoadError

/-- What a message tells of the cause behind an error, if there is one. -/
def causeMessage? : LoadError → Option String
  | file _ cause => some cause.message
  | document _ cause => some cause.message
  | otherKind _ => none

/-- The wording of the error. -/
def message : LoadError → String
  | file path cause => s!"I/O error at {path}: {cause.message}"
  | document path cause => s!"failed to parse template at {path}: {cause.message}"
  | otherKind kind =>
      s!"expected a document of kind '{Template.templateKind}', found '{kind}'"

end LoadError

namespace Template

/-- Read a template from a text. -/
def parse (text : String) : Except Yaml.DecodeError Template :=
  Yaml.decode (Template.read false) text

/-- The template in what was found under a path. -/
def ofFile (path : String) (answer : FileAnswer) : Except LoadError Template :=
  match answer with
  | .error cause => .error (.file path cause)
  | .ok text =>
      match parse text with
      | .error cause => .error (.document path cause)
      | .ok t => if t.kind = templateKind then .ok t else .error (.otherKind t.kind)

end Template

end ResourceTemplate

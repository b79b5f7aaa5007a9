import ResourceTemplate.Json.Basic

/-!
# Templates

A template is a list of raw object definitions with the parameters that may be referred to in them,
labels to be merged into every object, and a message for the user.

A parameter that has no value, or the empty one, is unset.  An explicit value wins over generation,
so setting one forgets the generator.
-/

namespace ResourceTemplate

/-- The metadata of an object or a template, in normal form: known fields only, none of them null.
-/
structure Metadata where
  fields : Dict Json
deriving DecidableEq

namespace Metadata

/-- Metadata without any field. -/
def empty : Metadata := ⟨[]⟩

/-- A field that is a text. -/
def text? (m : Metadata) (field : String) : Option String :=
  (m.fields.find? field).bind Json.asString?

/-- Set a text field, or remove it. -/
def setText (m : Metadata) (field : String) (value : Option String) : Metadata :=
  match value with
  | some s => ⟨m.fields.insert field (.string s)⟩
  | none => ⟨m.fields.erase field⟩

/-- The name. -/
def name? (m : Metadata) : Option String := m.text? "name"

/-- The namespace as it is written. -/
def namespaceName? (m : Metadata) : Option String := m.text? "namespace"

/-- The version of the stored object. -/
def resourceVersion? (m : Metadata) : Option String := m.text? "resourceVersion"

/-- Replace the namespace. -/
def withNamespace (m : Metadata) (value : Option String) : Metadata := m.setText "namespace" value

/-- Replace the version. -/
def withResourceVersion (m : Metadata) (value : Option String) : Metadata :=
  m.setText "resourceVersion" value

/-- Metadata as a JSON value. -/
def toJson (m : Metadata) : Json := .object m.fields

theorem text?_setText_self (m : Metadata) (field : String) (value : Option String) :
    (m.setText field value).text? field = value := by
  cases value with
  | none => simp [setText, text?, Dict.find?_erase_self]
  | some s => simp [setText, text?, Dict.find?_insert_self, Json.asString?]

theorem text?_setText_of_ne (m : Metadata) {field other : String} (value : Option String)
    (h : field ≠ other) : (m.setText field value).text? other = m.text? other := by
  cases value with
  | none => simp [setText, text?, Dict.find?_erase_of_ne _ h]
  | some s => simp [setText, text?, Dict.find?_insert_of_ne _ _ h]

end Metadata

/-- A named value of a template. -/
structure Parameter where
  name : String
  displayName? : Option String
  description? : Option String
  value? : Option String
  /-- The name of the generator that gives the value when none is set. -/
  generate? : Option String
  /-- What the generator is asked for. -/
  expression? : Option String
  required : Bool
deriving DecidableEq

namespace Parameter

/-- The value, empty when none is set. -/
def currentValue (p : Parameter) : String := p.value?.getD ""

/-- Whether there is a non-empty value. -/
def hasValue (p : Parameter) : Bool := p.currentValue ≠ ""

/-- Set an explicit value. -/
def override (p : Parameter) (value : String) : Parameter :=
  { p with value? := some value, generate? := none }

/-- The generator that is asked for a value, if any. -/
def directive? (p : Parameter) : Option String :=
  p.generate?.filter (· ≠ "")

end Parameter

/-- A parameterized collection of object definitions. -/
structure Template where
  apiVersion : String
  kind : String
  metadata : Metadata
  message? : Option String
  objects : List Json
  parameters : List Parameter
  labels : Dict String
deriving DecidableEq

namespace Template

/-- The API version of a template that does not say otherwise. -/
def defaultApiVersion : String := "template.openshift.io/v1"

/-- The kind of a template. -/
def templateKind : String := "Template"

/-- A template without content. -/
def empty : Template :=
  { apiVersion := defaultApiVersion, kind := templateKind, metadata := .empty, message? := none,
    objects := [], parameters := [], labels := [] }

/-- The first parameter of a name. -/
def parameter? (t : Template) (name : String) : Option Parameter :=
  t.parameters.find? fun p => p.name = name

/-- Change the first parameter of a name. -/
def modifyFirst (name : String) (f : Parameter → Parameter) : List Parameter → List Parameter
  | [] => []
  | p :: rest => if p.name = name then f p :: rest else p :: modifyFirst name f rest

/-- Set the value of the first parameter of a name; nothing changes when there is none. -/
def override (t : Template) (name value : String) : Template :=
  { t with parameters := modifyFirst name (·.override value) t.parameters }

/-- Set the values of several parameters. -/
def overrideAll (t : Template) (values : Dict String) : Template :=
  values.foldl (fun t entry => t.override entry.1 entry.2) t

/-- The value of every declared name.  Of several parameters of one name the last counts. -/
def values (t : Template) : Dict String :=
  Dict.ofList (t.parameters.map fun p => (p.name, p.currentValue))

end Template

end ResourceTemplate

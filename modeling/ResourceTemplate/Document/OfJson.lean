import ResourceTemplate.Document.Node
import ResourceTemplate.Json.Reader

/-!
# Values as documents

A JSON value is a document without places: scalars are read as what they are, and keys are texts.
-/

namespace ResourceTemplate.Document.Node

mutual

/-- The document of a value. -/
def ofJson : Json → Node Unit
  | .array items => .sequence () true (ofItems items)
  | .object members => .mapping () true (ofMembers members)
  | .null => .scalar () (Json.scalarOf .null)
  | .bool b => .scalar () (Json.scalarOf (.bool b))
  | .number n => .scalar () (Json.scalarOf (.number n))
  | .string s => .scalar () (Json.scalarOf (.string s))

/-- The documents of items. -/
def ofItems : List Json → List (Node Unit)
  | [] => []
  | item :: rest => ofJson item :: ofItems rest

/-- The entries of members. -/
def ofMembers : List (String × Json) → List (Node Unit × Node Unit)
  | [] => []
  | (key, value) :: rest =>
      (.scalar () (Json.scalarOf (.string key)), ofJson value) :: ofMembers rest

end

end ResourceTemplate.Document.Node

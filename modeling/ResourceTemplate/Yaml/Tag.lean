/-!
# Tags

The standard tags ask for one reading of a scalar.  A tag that begins with an exclamation mark is
one of the document's own; where any value may stand, what it marks is no plain value.
-/

namespace ResourceTemplate.Yaml

/-- A tag of a node. -/
inductive Tag where
  | null
  | bool
  | integer
  | float
  | own (name : String)
  | other
deriving DecidableEq

namespace Tag

/-- What the standard tags begin with. -/
def standardStart : String := "tag:yaml.org,2002:"

/-- A name without the exclamation mark in front of it, if there is more than that. -/
def stripMark : List Char → List Char
  | '!' :: c :: rest => c :: rest
  | cs => cs

/-- The tag of a text. -/
def ofText (s : String) : Tag :=
  if s = standardStart ++ "null" then null
  else if s = standardStart ++ "bool" then bool
  else if s = standardStart ++ "int" then integer
  else if s = standardStart ++ "float" then float
  else if s.toList.head? = some '!' then own (String.ofList (stripMark (stripMark s.toList)))
  else other

/-- Whether a tag is one of the document's own. -/
def isOwn : Tag → Bool
  | own _ => true
  | _ => false

end Tag

end ResourceTemplate.Yaml

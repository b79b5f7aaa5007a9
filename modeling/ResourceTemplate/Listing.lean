import ResourceTemplate.Json.Printer
import ResourceTemplate.Manifest.Basic
import ResourceTemplate.Yaml.Printer

/-!
# Listings

Rendered objects are listed either as a stream of YAML documents, one for each object, or as one
JSON value that holds them all.  Both show the raw values.
-/

namespace ResourceTemplate

/-- The forms of a listing. -/
inductive ListingFormat where
  | yaml
  | json
deriving DecidableEq

/-- The value that holds a list of objects. -/
def listValue (items : List Json) : Json :=
  .object (Dict.ofList
    [("apiVersion", .string "v1"), ("items", .array items), ("kind", .string "List")])

/-- The text of a listing. -/
def ListingFormat.list (format : ListingFormat) (objects : List RenderedObject) : String :=
  let values := objects.map RenderedObject.raw
  match format with
  | .yaml => Yaml.stream values
  | .json => (listValue values).indented 0 ++ "\n"

end ResourceTemplate

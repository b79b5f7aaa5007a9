import ResourceTemplate.Template.Basic

/-!
# Templates as values

Optional texts are written when they are set, also when they are empty; the labels of a template are
written unless there are none, and a parameter says that it is required only if it is.
-/

namespace ResourceTemplate

/-- A member that is written only when it is set. -/
def optionalMember (key : String) (value : Option String) : List (String × Json) :=
  match value with
  | some s => [(key, .string s)]
  | none => []

/-- A parameter as a value. -/
def Parameter.toJson (p : Parameter) : Json :=
  .object (Dict.ofList
    ([("name", .string p.name)] ++ optionalMember "displayName" p.displayName? ++
      optionalMember "description" p.description? ++ optionalMember "value" p.value? ++
      optionalMember "generate" p.generate? ++ optionalMember "from" p.expression? ++
      if p.required then [("required", .bool true)] else []))

/-- A template as a value. -/
def Template.toJson (t : Template) : Json :=
  .object (Dict.ofList
    ([("apiVersion", .string t.apiVersion), ("kind", .string t.kind),
      ("metadata", t.metadata.toJson)] ++ optionalMember "message" t.message? ++
      [("objects", .array t.objects), ("parameters", .array (t.parameters.map Parameter.toJson))] ++
      if t.labels.isEmpty then [] else [("labels", .object (t.labels.mapValues Json.string))]))

end ResourceTemplate

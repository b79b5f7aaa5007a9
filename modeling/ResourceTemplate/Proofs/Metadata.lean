import ResourceTemplate.Proofs.Dict
import ResourceTemplate.Template.Basic

/-!
# Changes to metadata

Setting the version of a resource leaves its name and its namespace alone, and the other way round.
Only the last of two versions counts, and it does not matter whether the namespace is set before or
after it.
-/

namespace ResourceTemplate.Metadata

theorem find?_setText_self (m : Metadata) (field : String) (value : Option String) :
    (m.setText field value).fields.find? field = value.map Json.string := by
  cases value with
  | none => exact Dict.find?_erase_self m.fields field
  | some s => exact Dict.find?_insert_self m.fields field (.string s)

theorem find?_setText_of_ne (m : Metadata) {field other : String} (value : Option String)
    (h : field ≠ other) : (m.setText field value).fields.find? other = m.fields.find? other := by
  cases value with
  | none => exact Dict.find?_erase_of_ne m.fields h
  | some s => exact Dict.find?_insert_of_ne m.fields (.string s) h

@[simp] theorem resourceVersion?_withResourceVersion (m : Metadata) (version : Option String) :
    (m.withResourceVersion version).resourceVersion? = version :=
  text?_setText_self m _ version

theorem namespaceName?_withResourceVersion (m : Metadata) (version : Option String) :
    (m.withResourceVersion version).namespaceName? = m.namespaceName? :=
  text?_setText_of_ne m version (by decide)

theorem name?_withResourceVersion (m : Metadata) (version : Option String) :
    (m.withResourceVersion version).name? = m.name? :=
  text?_setText_of_ne m version (by decide)

theorem resourceVersion?_withNamespace (m : Metadata) (value : Option String) :
    (m.withNamespace value).resourceVersion? = m.resourceVersion? :=
  text?_setText_of_ne m value (by decide)

theorem withResourceVersion_withResourceVersion (m : Metadata) (first second : String) :
    (m.withResourceVersion (some first)).withResourceVersion (some second) =
      m.withResourceVersion (some second) :=
  congrArg Metadata.mk (Dict.insert_insert_self m.fields _ _ _)

theorem withNamespace_withResourceVersion (m : Metadata) (value : Option String)
    (version : String) :
    (m.withResourceVersion (some version)).withNamespace value =
      (m.withNamespace value).withResourceVersion (some version) := by
  -- Changes commute without any assumption on the dictionary only in this order of the keys.
  have hlt : "namespace" < "resourceVersion" := by decide
  cases value with
  | none => exact congrArg Metadata.mk (Dict.erase_insert_of_lt m.fields hlt _)
  | some ns => exact congrArg Metadata.mk (Dict.insert_insert_of_lt m.fields hlt _ _)

end ResourceTemplate.Metadata

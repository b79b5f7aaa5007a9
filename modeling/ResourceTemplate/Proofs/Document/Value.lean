import ResourceTemplate.Document.OfJson
import ResourceTemplate.Proofs.Json.Canonical

/-!
# Documents of values

A canonical value is the value of its document.  Its objects are built anew from their entries, and
since the keys stand in order each entry is stored behind those that were stored before.
-/

namespace ResourceTemplate

namespace Document.Node

open Json

@[simp] theorem text_string {Place : Type} (place : Place) (s wanted : String) :
    (scalar place (scalarOf (.string s))).text wanted = .ok s := rfl

mutual

/-- The document of a canonical value has that value. -/
theorem value_ofJson {v : Json} (h : v.Canonical) : (ofJson v).value = .ok v := by
  match v with
  | .null | .bool _ | .number (.natural _) | .number (.negative _) | .number (.double _)
  | .string _ => rfl
  | .array items =>
      simp only [ofJson, Node.value, if_true, values_ofItems h 0]
      rfl
  | .object found =>
      have hordered : Dict.Ordered ([] ++ found) := h.1
      simp only [ofJson, Node.value, if_true]
      rw [members_ofMembers h.2 hordered]
      rfl

theorem values_ofItems {items : List Json} (h : CanonicalItems items) (index : Nat) :
    values index (ofItems items) = .ok items := by
  match items with
  | [] => rfl
  | item :: rest => simp only [ofItems, values, value_ofJson h.1, values_ofItems h.2 (index + 1)]

theorem members_ofMembers {found : List (String × Json)} (h : CanonicalMembers found)
    {before : Dict Json} (hordered : Dict.Ordered (before ++ found)) :
    members before (ofMembers found) = .ok (before ++ found) := by
  match found with
  | [] => simp only [ofMembers, members, List.append_nil]
  | (key, item) :: rest =>
      simp only [ofMembers, members, text_string, value_ofJson h.1]
      rw [Dict.insert_of_ordered_append hordered,
        members_ofMembers h.2 (Dict.ordered_append_replace hordered item), List.append_assoc]
      rfl

end

end Document.Node

end ResourceTemplate

import ResourceTemplate.Document.Node

/-!
# Records

The fields of a record may stand in any order, each at most once; fields of other names are ignored.
Where a notation allows it, a record may also be written as the list of its fields in their fixed
order, of which trailing ones may be left out.
-/

namespace ResourceTemplate.Document

variable {Place α : Type}

/-- What is wanted for the name of a field. -/
def fieldName : String := "field identifier"

/-- How a record is read: the names of its fields in their order, what messages call it, and how one
field is set. -/
structure RecordReader (Place α : Type) where
  name : String
  fields : List String
  set : α → String → Node Place → Except (Violation Place) α

namespace RecordReader

/-- Set fields from entries in order.  The names of the fields set before are given, and the names
of all fields that were set are returned. -/
def readEntries (reader : RecordReader Place α) (whole : Node Place) (seen : List String)
    (draft : α) : List (Node Place × Node Place) → Except (Violation Place) (α × List String)
  | [] => .ok (draft, seen)
  | (key, node) :: rest =>
      match key.text fieldName with
      | .error v => .error v
      | .ok name =>
          if !reader.fields.contains name then readEntries reader whole seen draft rest
          else if seen.contains name then .error (whole.fault (.duplicateField name))
          else
            match reader.set draft name node with
            | .error v => .error (v.under key.keyStep)
            | .ok draft => readEntries reader whole (name :: seen) draft rest

/-- Set fields from items in the fixed order. -/
def readItems (reader : RecordReader Place α) (seen : List String) (draft : α) :
    List (String × Node Place) → Except (Violation Place) (α × List String)
  | [] => .ok (draft, seen)
  | (name, node) :: rest =>
      match reader.set draft name node with
      | .error v => .error (v.under (.item seen.length))
      | .ok draft => readItems reader (name :: seen) draft rest

/-- Read a record that starts from a draft. -/
def read (reader : RecordReader Place α) (positional : Bool) (draft : α) (node : Node Place) :
    Except (Violation Place) (α × List String) :=
  match positional, node with
  | true, .sequence _ _ items => reader.readItems [] draft (reader.fields.zip items)
  | _, node =>
      match node.entries reader.name with
      | .error v => .error v
      | .ok entries => reader.readEntries node [] draft entries

/-- The violation of a record that is written as a list with items to spare. -/
def surplus? (fields : List String) (positional : Bool) (node : Node Place) :
    Option (Violation Place) :=
  match positional, node with
  | true, .sequence _ _ items =>
      if fields.length < items.length then
        some (node.fault (.wrongLength items.length "fewer elements in array"))
      else none
  | _, _ => none

end RecordReader

end ResourceTemplate.Document

/-!
# Types of fields

The kinds that a scheme knows are given by tables of record types.  A record names its fields and
their types, and refers to other records by name; fields it does not name are ignored.
-/

namespace ResourceTemplate.Schema

/-- What a field may hold. -/
inductive FieldType where
  | text
  | flag
  | int32
  | int64
  /-- A text that stands for an amount; its form is not looked at. -/
  | quantity
  | intOrText
  | bytes
  | time
  | anything
  | list (item : FieldType)
  | dict (item : FieldType)
  | record (name : String)

/-- How messages name a type. -/
def FieldType.wanted : FieldType → String
  | text => "a string"
  | flag => "a boolean"
  | int32 => "i32"
  | int64 => "i64"
  | quantity => "a string"
  | intOrText => "IntOrString"
  | bytes => "a base64-encoded string"
  | time => "an RFC 3339 formatted date and time string"
  | anything => "any valid JSON value"
  | list _ => "a sequence"
  | dict _ => "a map"
  | record name => name

/-- A record type. -/
structure RecordType where
  name : String
  /-- The API version of objects of this type, when objects of their own are made of it. -/
  resource? : Option String
  fields : List (String × FieldType)
  /-- The texts that are written even when they are empty. -/
  always : List String

namespace RecordType

/-- A record that is part of objects. -/
def part (name : String) (fields : List (String × FieldType)) : RecordType :=
  ⟨name, none, fields, []⟩

/-- A record that objects of an API version are made of. -/
def resource (name apiVersion : String) (fields : List (String × FieldType)) : RecordType :=
  ⟨name, some apiVersion, fields, []⟩

/-- The type of a field. -/
def field? (r : RecordType) (name : String) : Option FieldType :=
  (r.fields.find? fun f => f.1 = name).map Prod.snd

/-- The text that a field of a resource must have when it is present. -/
def constant? (r : RecordType) (name : String) : Option String :=
  match r.resource? with
  | none => none
  | some apiVersion =>
      if name = "apiVersion" then some apiVersion
      else if name = "kind" then some r.name
      else none

end RecordType

end ResourceTemplate.Schema

import ResourceTemplate.Document.Record
import ResourceTemplate.Schema.Base64
import ResourceTemplate.Schema.Table
import ResourceTemplate.Schema.Timestamp

/-!
# Reading a document at a type

Reading walks the document in its own order, depth first, and stops at the first violation.  Its
result is the value in normal form: fields that the type does not name and fields that are null are
left out, timestamps are written in universal time, and texts that are always written are there.
-/

namespace ResourceTemplate.Schema

open Document

variable {Place : Type}

/-- Read a text. -/
def readText (wanted : String) (node : Node Place) : Except (Violation Place) Json :=
  (node.text wanted).map Json.string

/-- Read an integer of so many bits, the sign included. -/
def readInteger (bits : Nat) (wanted range : String) (node : Node Place) :
    Except (Violation Place) Json :=
  match node with
  | .scalar p s =>
      match s.integer? with
      | none => .error ((Node.scalar p s).mismatch wanted)
      | some i =>
          if -Int.pow 2 (bits - 1) ≤ i ∧ i < Int.pow 2 (bits - 1) then .ok (Json.ofInt i)
          else .error (node.fault (.unexpectedValue (.integer i) range))
  | other => .error (other.mismatch wanted)

/-- Read a timestamp. -/
def readTime (node : Node Place) : Except (Violation Place) Json :=
  match node.text FieldType.time.wanted with
  | .error v => .error v
  | .ok s =>
      match Timestamp.read s with
      | .ok moment => .ok (.string moment.text)
      | .error fault => .error (node.fault (.malformed fault.message))

/-- Read bytes that are written in base64; none are written as null. -/
def readBytes (node : Node Place) : Except (Violation Place) Json :=
  match node.isAbsent with
  | .error v => .error v
  | .ok true => .ok .null
  | .ok false =>
      match node.text FieldType.bytes.wanted with
      | .error v => .error v
      | .ok s =>
          match Base64.fault? (s.toUTF8.toList.map UInt8.toNat) with
          | none => .ok (.string s)
          | some fault => .error (node.fault (.malformed fault.message))

/-- Read an integer or a text. -/
def readIntOrText (node : Node Place) : Except (Violation Place) Json :=
  match node with
  | .scalar _ { found := .text s, .. } => .ok (.string s)
  | other => readInteger 32 FieldType.intOrText.wanted "a 32-bit integer" other

/-- A record read so far, with the texts that it always has. -/
def finishRecord (r : RecordType) (fields : Dict Json) : Json :=
  .object (r.always.foldl
    (fun (fields : Dict Json) name =>
      if fields.has name then fields else fields.insert name (.string "")) fields)

/-- Read a scalar.  A hollow scalar stands for an empty collection. -/
def readScalar (t : FieldType) (node : Node Place) (hollow : Bool) :
    Except (Violation Place) Json :=
  match t with
  | .text => readText FieldType.text.wanted node
  | .quantity => readText FieldType.quantity.wanted node
  | .flag => (node.flag FieldType.flag.wanted).map Json.bool
  | .int32 => readInteger 32 FieldType.int32.wanted FieldType.int32.wanted node
  | .int64 => readInteger 64 FieldType.int64.wanted FieldType.int64.wanted node
  | .intOrText => readIntOrText node
  | .bytes => readBytes node
  | .time => readTime node
  | .anything => node.value
  | .list item =>
      if hollow then .ok (.array []) else .error (node.mismatch (FieldType.list item).wanted)
  | .dict item =>
      if hollow then .ok (.object []) else .error (node.mismatch (FieldType.dict item).wanted)
  | .record name =>
      if hollow then .ok (finishRecord (recordType name) []) else .error (node.mismatch name)

/-- Check the text of a field that must have a constant text. -/
def readConstant (constant : String) (step : Step) (node : Node Place) :
    Except (Violation Place) Json :=
  match node.text FieldType.text.wanted with
  | .error v => .error (v.under step)
  | .ok s =>
      if s = constant then .ok (.string s)
      else .error ⟨.unexpectedValue (.text s) constant, [step], node.place, .after⟩

mutual

/-- Read a document at a type. -/
def read (t : FieldType) : Node Place → Except (Violation Place) Json
  | .scalar p s => readScalar t (.scalar p s) s.hollow
  | .sequence p loose items =>
      match t with
      | .list item => (readItems item 0 items).map Json.array
      | .record name => .error ⟨.unexpectedType .sequence name, [], p, .opened⟩
      | .anything => (Node.sequence p loose items).value
      | t => .error ((Node.sequence p loose items).mismatch t.wanted)
  | .mapping p loose entries =>
      match t with
      | .dict item => (readEntries item [] entries).map Json.object
      | .record name => readFields (recordType name) [] entries
      | .anything => (Node.mapping p loose entries).value
      | t => .error ((Node.mapping p loose entries).mismatch t.wanted)
  | .unreadable p => .error ⟨.unreadable, [], p, .stop⟩

/-- Read the items of a list, from a position on. -/
def readItems (item : FieldType) (index : Nat) :
    List (Node Place) → Except (Violation Place) (List Json)
  | [] => .ok []
  | node :: rest =>
      match read item node with
      | .error v => .error (v.under (.item index))
      | .ok value => (readItems item (index + 1) rest).map (value :: ·)

/-- Read the entries of a map, added to those that were read before. -/
def readEntries (item : FieldType) (before : Dict Json) :
    List (Node Place × Node Place) → Except (Violation Place) (Dict Json)
  | [] => .ok before
  | (key, node) :: rest =>
      match key.text FieldType.text.wanted with
      | .error v => .error v
      | .ok name =>
          match read item node with
          | .error v => .error (v.under key.keyStep)
          | .ok value => readEntries item (before.insert name value) rest

/-- Read the fields of a record, added to those that were read before. -/
def readFields (r : RecordType) (before : Dict Json) :
    List (Node Place × Node Place) → Except (Violation Place) Json
  | [] => .ok (finishRecord r before)
  | (key, node) :: rest =>
      match key.text fieldName with
      | .error v => .error v
      | .ok name =>
          match r.constant? name with
          | some constant =>
              match readConstant constant key.keyStep node with
              | .error v => .error v
              | .ok value => readFields r (before.insert name value) rest
          | none =>
              match r.field? name with
              | none => readFields r before rest
              | some t =>
                  match node.isAbsent with
                  | .error v => .error (v.under key.keyStep)
                  | .ok true => readFields r (before.erase name) rest
                  | .ok false =>
                      match read t node with
                      | .error v => .error (v.under key.keyStep)
                      | .ok value => readFields r (before.insert name value) rest

end

end ResourceTemplate.Schema

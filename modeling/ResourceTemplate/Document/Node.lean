import ResourceTemplate.Document.Violation
import ResourceTemplate.Json.Basic

/-!
# Document trees

Values, JSON texts and markup texts are all read through one kind of tree.  A scalar carries the
readings that its notation allows, because a notation may let one and the same scalar be read as a
text, as a number or as nothing, depending on what is asked of it.  Every node carries an annotation
that says where it stands.

A text that stops being readable still has a tree: its last part is `unreadable`.
-/

namespace ResourceTemplate.Document

/-- The readings of a scalar. -/
structure Scalar where
  /-- What messages call it. -/
  found : Found
  /-- Its text, where a text is wanted. -/
  text? : Option String
  /-- The name that it gives a member of which it is the key. -/
  label? : Option String
  /-- Its truth value, where one is wanted. -/
  flag? : Option Bool
  /-- Its integer, where one is wanted. -/
  integer? : Option Int
  /-- Its value where any value may stand, or why none may stand there. -/
  free : Except Cause Json
  /-- Whether an optional part that is written like this counts as not written, if it may stand for
  one. -/
  absence : Except Cause Bool
  /-- Whether it may stand for an empty sequence or mapping. -/
  hollow : Bool

/-- A document whose nodes are annotated with places. -/
inductive Node (Place : Type) where
  | scalar (place : Place) (s : Scalar)
  /-- A collection with `loose := false` may not stand where any value may stand. -/
  | sequence (place : Place) (loose : Bool) (items : List (Node Place))
  | mapping (place : Place) (loose : Bool) (entries : List (Node Place × Node Place))
  | unreadable (place : Place)

namespace Node

variable {Place : Type}

/-- Where a node stands. -/
def place : Node Place → Place
  | scalar p _ => p
  | sequence p _ _ => p
  | mapping p _ _ => p
  | unreadable p => p

/-- What messages call a node. -/
def found : Node Place → Found
  | scalar _ s => s.found
  | sequence _ _ _ => .sequence
  | mapping _ _ _ => .mapping
  | unreadable _ => .unit

/-- The violation of a node that is not of the wanted type.  A scalar has been read when this comes
to light; a collection has not been entered. -/
def mismatch (wanted : String) (node : Node Place) : Violation Place :=
  match node with
  | unreadable p => ⟨.unreadable, [], p, .stop⟩
  | scalar p s => ⟨.unexpectedType s.found wanted, [], p, .stop⟩
  | sequence p _ _ => ⟨.unexpectedType .sequence wanted, [], p, .start⟩
  | mapping p _ _ => ⟨.unexpectedType .mapping wanted, [], p, .start⟩

/-- A violation by the content of a node that has been read. -/
def fault (cause : Cause) (node : Node Place) : Violation Place :=
  ⟨cause, [], node.place, .stop⟩

/-- The text of a node. -/
def text (wanted : String) (node : Node Place) : Except (Violation Place) String :=
  match node with
  | scalar _ { text? := some s, .. } => .ok s
  | other => .error (other.mismatch wanted)

/-- The truth value of a node. -/
def flag (wanted : String) (node : Node Place) : Except (Violation Place) Bool :=
  match node with
  | scalar _ { flag? := some b, .. } => .ok b
  | other => .error (other.mismatch wanted)

/-- Whether an optional part that is written like this counts as not written. -/
def isAbsent : Node Place → Except (Violation Place) Bool
  | scalar p s =>
      match s.absence with
      | .ok absent => .ok absent
      | .error cause => .error ⟨cause, [], p, .stop⟩
  | _ => .ok false

/-- The text of an optional part. -/
def optionalText (wanted : String) (node : Node Place) :
    Except (Violation Place) (Option String) :=
  match node.isAbsent with
  | .error v => .error v
  | .ok true => .ok none
  | .ok false => (node.text wanted).map some

/-- The items of a sequence. -/
def items (wanted : String) (node : Node Place) : Except (Violation Place) (List (Node Place)) :=
  match node with
  | sequence _ _ items => .ok items
  | scalar p s => if s.hollow then .ok [] else .error ((scalar p s).mismatch wanted)
  | other => .error (other.mismatch wanted)

/-- The entries of a mapping. -/
def entries (wanted : String) (node : Node Place) :
    Except (Violation Place) (List (Node Place × Node Place)) :=
  match node with
  | mapping _ _ entries => .ok entries
  | scalar p s => if s.hollow then .ok [] else .error ((scalar p s).mismatch wanted)
  | other => .error (other.mismatch wanted)

/-- The step from a mapping to the value under a key. -/
def keyStep (key : Node Place) : Step :=
  match key with
  | scalar _ { label? := some s, .. } => .member s
  | _ => .nameless

/-- What is wanted where any value may stand. -/
def anyValue : String := "any valid JSON value"

/-- What is wanted for a key. -/
def stringKey : String := "a string key"

mutual

/-- The value of a node in a place where any value may stand.  Of several entries of one key the
last is kept. -/
def value : Node Place → Except (Violation Place) Json
  | scalar p s =>
      match s.free with
      | .ok v => .ok v
      | .error cause => .error ⟨cause, [], p, .stop⟩
  | sequence p loose items =>
      if loose then (values 0 items).map Json.array
      else .error ⟨.unexpectedType .tagged anyValue, [], p, .start⟩
  | mapping p loose entries =>
      if loose then (members [] entries).map Json.object
      else .error ⟨.unexpectedType .tagged anyValue, [], p, .start⟩
  | unreadable p => .error ⟨.unreadable, [], p, .stop⟩

/-- The values of the items of a sequence. -/
def values (index : Nat) : List (Node Place) → Except (Violation Place) (List Json)
  | [] => .ok []
  | item :: rest =>
      match item.value with
      | .error v => .error (v.under (.item index))
      | .ok v =>
          match values (index + 1) rest with
          | .error e => .error e
          | .ok vs => .ok (v :: vs)

/-- The members of an object, added to those that were read before. -/
def members (before : Dict Json) :
    List (Node Place × Node Place) → Except (Violation Place) (Dict Json)
  | [] => .ok before
  | (key, item) :: rest =>
      match key.text stringKey with
      | .error e => .error e
      | .ok k =>
          match item.value with
          | .error v => .error (v.under key.keyStep)
          | .ok v => members (before.insert k v) rest

end

end Node

end ResourceTemplate.Document

import ResourceTemplate.Json.Reader

/-!
# Reading a text at a type

A text is read into a tree and the tree at a type.  Of a violation and a fault of the text,
whichever stands first is told, with the place that reading had reached.
-/

namespace ResourceTemplate.Json

open Document

/-- Why a text cannot be read at a type. -/
inductive DecodeError where
  | unreadable (error : SyntaxError)
  | violation (cause : Cause) (place : Position)
deriving DecidableEq

/-- The wording of the error, with its place. -/
def DecodeError.message : DecodeError → String
  | unreadable e => e.message
  | violation cause place => cause.message ++ " " ++ place.text

/-- Read a text at a type. -/
def decode {α : Type} (read : Node Span → Except (Violation Span) α) (text : String) :
    Except DecodeError α :=
  let chars := text.toList
  let document := readDocument chars
  match read document.1, document.2 with
  | .ok value, none => .ok value
  | .ok _, some failure => .error (.unreadable (failure.toError chars))
  | .error v, failure? =>
      let here := Position.ofOffset chars (v.place.at v.side)
      match v.cause, failure? with
      | .unreadable, some failure => .error (.unreadable (failure.toError chars))
      | cause, _ => .error (.violation cause here)

end ResourceTemplate.Json

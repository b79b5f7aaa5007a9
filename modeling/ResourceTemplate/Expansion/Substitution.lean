import ResourceTemplate.Expansion.Reference
import ResourceTemplate.Json.Reader

/-!
# Substitution in values

Every text in a value is evaluated, the keys of objects included.  A text that refers to data as a
whole is replaced by the data; the data itself is not evaluated again.  Of several keys that come to
the same text, the one that was greatest before gives the value.
-/

namespace ResourceTemplate.Expansion

/-- A value that was to stand as data but cannot be read. -/
structure SubstitutionError where
  /-- The value. -/
  written : String
  /-- The text that refers to it. -/
  text : String
  cause : Json.SyntaxError
deriving DecidableEq

/-- The wording of the error. -/
def SubstitutionError.message (e : SubstitutionError) : String :=
  s!"unable to decode non-string parameter value '{e.written}' in '{e.text}': {e.cause.message}"

/-- Substitute in one text. -/
def substituteString (values : Dict String) (text : String) : Except SubstitutionError Json :=
  match evaluate values text with
  | .text s => .ok (.string s)
  | .data written =>
      match Json.parse written with
      | .ok value => .ok value
      | .error cause => .error ⟨written, text, cause⟩

mutual

/-- Substitute in every text of a value. -/
def substitute (values : Dict String) : Json → Except SubstitutionError Json
  | .string text => substituteString values text
  | .array items => (substituteItems values items).map Json.array
  | .object members => (substituteMembers values members).map fun done => .object (Dict.ofList done)
  | .null => .ok .null
  | .bool b => .ok (.bool b)
  | .number n => .ok (.number n)

/-- Substitute in every item. -/
def substituteItems (values : Dict String) : List Json → Except SubstitutionError (List Json)
  | [] => .ok []
  | item :: rest =>
      match substitute values item with
      | .error e => .error e
      | .ok done => (substituteItems values rest).map (done :: ·)

/-- Substitute in every member, the value before its key. -/
def substituteMembers (values : Dict String) :
    List (String × Json) → Except SubstitutionError (List (String × Json))
  | [] => .ok []
  | (key, value) :: rest =>
      match substitute values value with
      | .error e => .error e
      | .ok done => (substituteMembers values rest).map ((substituteText values key, done) :: ·)

end

end ResourceTemplate.Expansion

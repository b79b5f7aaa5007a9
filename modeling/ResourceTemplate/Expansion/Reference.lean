import ResourceTemplate.Dict

/-!
# References

`${NAME}` in a text refers to the value of a name.  A text that is `${{NAME}}` as a
whole refers to the value as data, when the name is known.  A name is a non-empty word of ASCII
letters, digits and underscores.

A text is cut once, from left to right, into its references and the characters between them; what is
put in the place of a reference is not looked at again.
-/

namespace ResourceTemplate.Expansion

/-- Whether a character may stand in a name. -/
def isNameChar (c : Char) : Bool :=
  c.isAlphanum || c = '_'

/-- How a reference to a name is written. -/
def referenceChars (name : List Char) : List Char :=
  '$' :: '\x7b' :: name ++ ['\x7d']

/-- A part of a text: a reference, or a character to be kept. -/
inductive Piece where
  | kept (c : Char)
  | reference (name : List Char)
deriving DecidableEq

/-- The name that the reference at the start of a text refers to. -/
def referenceAt? (text : List Char) : Option (List Char) :=
  match text with
  | '$' :: '\x7b' :: rest =>
      let name := rest.takeWhile isNameChar
      match name, rest.dropWhile isNameChar with
      | _ :: _, '\x7d' :: _ => some name
      | _, _ => none
  | _ => none

/-- Cut a text into pieces, of which the first characters belong to a reference already found. -/
def cut (taken : Nat) : List Char → List Piece
  | [] => []
  | c :: rest =>
      match taken with
      | taken + 1 => cut taken rest
      | 0 =>
          match referenceAt? (c :: rest) with
          | some name => .reference name :: cut ((referenceChars name).length - 1) rest
          | none => .kept c :: cut 0 rest

/-- The pieces of a text. -/
def pieces (text : List Char) : List Piece :=
  cut 0 text

/-- Whether a text refers to some name. -/
def hasReference (text : String) : Bool :=
  (pieces text.toList).any fun
    | .reference _ => true
    | .kept _ => false

/-- How a reference as data is written. -/
def dataReferenceChars (name : List Char) : List Char :=
  '$' :: '\x7b' :: '\x7b' :: name ++ ['\x7d', '\x7d']

/-- The name that a text refers to as data. -/
def dataReference? (text : List Char) : Option (List Char) :=
  match text with
  | '$' :: '\x7b' :: '\x7b' :: rest =>
      let name := rest.takeWhile isNameChar
      match name, rest.dropWhile isNameChar with
      | _ :: _, ['\x7d', '\x7d'] => some name
      | _, _ => none
  | _ => none

/-- What a text comes to: a text, or the written form of data. -/
inductive Evaluated where
  | text (s : String)
  | data (written : String)
deriving DecidableEq

/-- What is put in the place of a piece. -/
def Piece.resolve (values : Dict String) : Piece → List Char
  | kept c => [c]
  | reference name =>
      match values.find? (String.ofList name) with
      | some value => value.toList
      | none => referenceChars name

/-- A text with its references resolved; unknown names stay as they are. -/
def resolveText (values : Dict String) (text : String) : String :=
  String.ofList ((pieces text.toList).flatMap (Piece.resolve values))

/-- Evaluate a text. -/
def evaluate (values : Dict String) (text : String) : Evaluated :=
  match (dataReference? text.toList).bind fun name => values.find? (String.ofList name) with
  | some written => .data written
  | none => .text (resolveText values text)

/-- Evaluate a text in a place where data cannot stand. -/
def substituteText (values : Dict String) (text : String) : String :=
  match evaluate values text with
  | .text s => s
  | .data written => written

end ResourceTemplate.Expansion

import ResourceTemplate.Document.Node
import ResourceTemplate.Json.Numeral
import ResourceTemplate.Text.Hexadecimal

/-!
# Reading JSON text

A text is read into a document tree whose nodes carry the bytes at which they begin and end.  When
the text has a fault, the tree holds what was read before it, and the fault is given beside the
tree: whoever reads the tree at a type meets a violation that stands before the fault first.

Containers may be nested to a depth of 127.  The text of a string is the sequence of its characters,
escapes resolved; a pair of escapes may stand for one character beyond the basic plane.
-/

namespace ResourceTemplate.Json

open Document

/-- Where a node stands in a text, in bytes from the start. -/
structure Span where
  /-- The bytes before the node. -/
  start : Nat
  /-- The bytes up to and including the opening bracket, and the closing one if it follows. -/
  opened : Nat
  /-- The bytes up to the end of the node. -/
  stop : Nat
  /-- The bytes up to the end of what follows the node, if that closes an object. -/
  after : Nat

/-- The offset that belongs to a side of a node. -/
def Span.at (s : Span) : Side → Nat
  | .start => s.start
  | .opened => s.opened
  | .stop => s.stop
  | .after => s.after

/-- The nesting that a reader starts with. -/
def nestingLimit : Nat := 128

/-- The bytes of a list of characters. -/
def byteCount (cs : List Char) : Nat :=
  cs.foldl (fun n c => n + c.utf8Size) 0

/-- The failure of an escape whose four digits are missing or wrong. -/
def digitsFailure (offset : Nat) (rest : List Char) : Failure :=
  let bytes := byteCount rest
  if bytes < 4 then ⟨.endInString, offset + bytes⟩ else ⟨.invalidEscape, offset + 4⟩

/-- The character of an escape of one letter. -/
def simpleEscape? (c : Char) : Option Char :=
  match c with
  | '"' => some '"'
  | '\\' => some '\\'
  | '/' => some '/'
  | 'b' => some '\x08'
  | 'f' => some '\x0c'
  | 'n' => some '\n'
  | 'r' => some '\r'
  | 't' => some '\t'
  | _ => none

/-- The character of a pair of surrogates. -/
def pairedCharacter (high low : Nat) : Char :=
  Char.ofNat (0x10000 + (high - 0xD800) * 0x400 + (low - 0xDC00))

/-- Whether a code unit is the first half of a pair. -/
def isHighSurrogate (n : Nat) : Bool := 0xD800 ≤ n && n ≤ 0xDBFF

/-- Whether a code unit is the second half of a pair. -/
def isLowSurrogate (n : Nat) : Bool := 0xDC00 ≤ n && n ≤ 0xDFFF

/-- Read a string behind its opening quote.  The characters read so far are given in reverse. -/
def readString (done : List Char) (offset : Nat) : List Char → Except Failure (String × Cursor)
  | [] => .error ⟨.endInString, offset⟩
  | '"' :: rest => .ok (String.ofList done.reverse, ⟨offset + 1, rest⟩)
  | ['\\'] => .error ⟨.endInString, offset + 1⟩
  | '\\' :: 'u' :: a :: b :: c :: d :: rest =>
      match Text.digits? 16 [a, b, c, d] with
      | none => .error (digitsFailure (offset + 2) (a :: b :: c :: d :: rest))
      | some n =>
          if isLowSurrogate n then .error ⟨.loneSurrogate, offset + 6⟩
          else if isHighSurrogate n then
            match rest with
            | [] => .error ⟨.endInString, offset + 6⟩
            | ['\\'] => .error ⟨.endInString, offset + 7⟩
            | '\\' :: 'u' :: e :: f :: g :: h :: rest =>
                match Text.digits? 16 [e, f, g, h] with
                | none => .error (digitsFailure (offset + 8) (e :: f :: g :: h :: rest))
                | some low =>
                    if isLowSurrogate low then
                      readString (pairedCharacter n low :: done) (offset + 12) rest
                    else .error ⟨.loneSurrogate, offset + 12⟩
            | '\\' :: 'u' :: short => .error (digitsFailure (offset + 8) short)
            | '\\' :: _ :: _ => .error ⟨.endInHexEscape, offset + 8⟩
            | _ :: _ => .error ⟨.endInHexEscape, offset + 7⟩
          else readString (Char.ofNat n :: done) (offset + 6) rest
  | '\\' :: 'u' :: short => .error (digitsFailure (offset + 2) short)
  | '\\' :: e :: rest =>
      match simpleEscape? e with
      | some c => readString (c :: done) (offset + 2) rest
      | none => .error ⟨.invalidEscape, offset + 2⟩
  | c :: rest =>
      if c.toNat < 0x20 then .error ⟨.controlCharacter, offset + 1⟩
      else readString (c :: done) (offset + c.utf8Size) rest

/-- Read the remaining letters of a literal name. -/
def readIdent (offset : Nat) : List Char → List Char → Except Failure Cursor
  | [], rest => .ok ⟨offset, rest⟩
  | _ :: _, [] => .error ⟨.endInValue, offset⟩
  | w :: ws, c :: rest =>
      if w = c then readIdent (offset + 1) ws rest else .error ⟨.expectedIdent, offset + 1⟩

/-- The readings of a scalar value. -/
def scalarOf (value : Json) : Scalar :=
  let plain : Scalar :=
    { found := .null, text? := none, label? := none, flag? := none, integer? := none,
      free := .ok value, absence := .ok false, hollow := false }
  match value with
  | .bool b => { plain with found := .boolean b, flag? := some b }
  | .number (.natural n) => { plain with found := .integer n, integer? := some (n : Int) }
  | .number (.negative n) =>
      { plain with found := .integer (Int.negSucc n), integer? := some (Int.negSucc n) }
  | .number (.double d) => { plain with found := .floating d }
  | .string s => { plain with found := .text s, text? := some s, label? := some s }
  | _ => { plain with absence := .ok true }

/-- What reading a part of a text comes to: the part and the place behind it, or what could be read
of the part before a failure. -/
inductive Outcome (α : Type) where
  | done (result : α) (next : Cursor)
  | stop (partly : α) (failure : Failure)

/-- The bytes up to the end of what follows a place, if that closes an object. -/
def afterOffset (c : Cursor) : Nat :=
  let next := c.skipBlank
  match next.rest with
  | '\x7d' :: _ => next.offset + 1
  | _ => next.offset

/-- The bytes read when a list is left as soon as it has been entered. -/
def openedOffset (c : Cursor) : Nat :=
  let next := c.skipBlank
  match next.rest with
  | ']' :: _ => next.offset + 1
  | ',' :: rest => (Cursor.skipBlank ⟨next.offset + 1, rest⟩).offset
  | _ => next.offset

/-- The span of a node without content of its own. -/
def spanOf (start stop : Cursor) : Span :=
  ⟨start.offset, start.offset, stop.offset, afterOffset stop⟩

/-- The outcome of reading a scalar. -/
def scalarOutcome (start : Cursor) (result : Except Failure (Json × Cursor)) :
    Outcome (Node Span) :=
  match result with
  | .ok (value, next) => .done (.scalar (spanOf start next) (scalarOf value)) next
  | .error failure => .stop (.unreadable (spanOf start start)) failure

/-- The part that could not be read at a place. -/
def unreadableAt (c : Cursor) (fault : Fault) (offset : Nat) : Outcome (Node Span) :=
  .stop (.unreadable (spanOf c c)) ⟨fault, offset⟩

mutual

/-- Read a value, with blanks before it. -/
def readValue (fuel depth : Nat) (place : Cursor) : Outcome (Node Span) :=
  let c := place.skipBlank
  match fuel with
  | 0 => unreadableAt c .endInValue c.offset
  | fuel + 1 =>
      match c.rest with
      | [] => unreadableAt c .endInValue c.offset
      | 'n' :: rest =>
          scalarOutcome c ((readIdent (c.offset + 1) ['u', 'l', 'l'] rest).map (Json.null, ·))
      | 't' :: rest =>
          scalarOutcome c ((readIdent (c.offset + 1) ['r', 'u', 'e'] rest).map (Json.bool true, ·))
      | 'f' :: rest =>
          scalarOutcome c
            ((readIdent (c.offset + 1) ['a', 'l', 's', 'e'] rest).map (Json.bool false, ·))
      | '"' :: rest =>
          scalarOutcome c ((readString [] (c.offset + 1) rest).map fun r => (Json.string r.1, r.2))
      | '-' :: rest =>
          scalarOutcome c
            ((readNumeral true ⟨c.offset + 1, rest⟩).map fun r => (Json.number r.1, r.2))
      | '[' :: rest =>
          if depth ≤ 1 then unreadableAt c .tooDeep c.peek
          else
            let inside : Cursor := ⟨c.offset + 1, rest⟩
            let span := fun next => { spanOf c next with opened := openedOffset inside }
            match readItems fuel (depth - 1) [] inside with
            | .done items next => .done (.sequence (span next) true items) next
            | .stop items failure => .stop (.sequence (span inside) true items) failure
      | '\x7b' :: rest =>
          if depth ≤ 1 then unreadableAt c .tooDeep c.peek
          else
            let inside : Cursor := ⟨c.offset + 1, rest⟩
            match readEntries fuel (depth - 1) [] inside with
            | .done entries next => .done (.mapping (spanOf c next) true entries) next
            | .stop entries failure => .stop (.mapping (spanOf c inside) true entries) failure
      | first :: _ =>
          if first.isDigit then
            scalarOutcome c ((readNumeral false c).map fun r => (Json.number r.1, r.2))
          else unreadableAt c .expectedValue c.peek

/-- Read the items of a list up to its closing bracket.  The items before are given in reverse. -/
def readItems (fuel depth : Nat) (before : List (Node Span)) (place : Cursor) :
    Outcome (List (Node Span)) :=
  let c := place.skipBlank
  match fuel with
  | 0 => .stop before.reverse ⟨.endInList, c.offset⟩
  | fuel + 1 =>
      match c.rest with
      | [] => .stop before.reverse ⟨.endInList, c.offset⟩
      | ']' :: rest => .done before.reverse ⟨c.offset + 1, rest⟩
      | first :: rest =>
          if before.isEmpty then readItem fuel depth before c
          else if first = ',' then
            let next := Cursor.skipBlank ⟨c.offset + 1, rest⟩
            match next.rest with
            | [] => .stop before.reverse ⟨.endInValue, next.offset⟩
            | ']' :: _ => .stop before.reverse ⟨.trailingComma, next.peek⟩
            | _ => readItem fuel depth before next
          else .stop before.reverse ⟨.expectedCommaOrBracket, c.peek⟩

/-- Read one item of a list and those behind it. -/
def readItem (fuel depth : Nat) (before : List (Node Span)) (place : Cursor) :
    Outcome (List (Node Span)) :=
  match fuel with
  | 0 => .stop before.reverse ⟨.endInList, place.offset⟩
  | fuel + 1 =>
      match readValue fuel depth place with
      | .done item next => readItems fuel depth (item :: before) next
      | .stop item failure => .stop (item :: before).reverse failure

/-- Read the entries of an object up to its closing brace. -/
def readEntries (fuel depth : Nat) (before : List (Node Span × Node Span)) (place : Cursor) :
    Outcome (List (Node Span × Node Span)) :=
  let c := place.skipBlank
  match fuel with
  | 0 => .stop before.reverse ⟨.endInObject, c.offset⟩
  | fuel + 1 =>
      match c.rest with
      | [] => .stop before.reverse ⟨.endInObject, c.offset⟩
      | '\x7d' :: rest => .done before.reverse ⟨c.offset + 1, rest⟩
      | first :: rest =>
          if before.isEmpty then
            if first = '"' then readEntry fuel depth before c
            else .stop before.reverse ⟨.keyNotString, c.peek⟩
          else if first = ',' then
            let next := Cursor.skipBlank ⟨c.offset + 1, rest⟩
            match next.rest with
            | [] => .stop before.reverse ⟨.endInValue, next.offset⟩
            | '"' :: _ => readEntry fuel depth before next
            | '\x7d' :: _ => .stop before.reverse ⟨.trailingComma, next.peek⟩
            | _ => .stop before.reverse ⟨.keyNotString, next.peek⟩
          else .stop before.reverse ⟨.expectedCommaOrBrace, c.peek⟩

/-- Read one entry of an object, of which the key begins here, and those behind it. -/
def readEntry (fuel depth : Nat) (before : List (Node Span × Node Span)) (place : Cursor) :
    Outcome (List (Node Span × Node Span)) :=
  match fuel with
  | 0 => .stop before.reverse ⟨.endInObject, place.offset⟩
  | fuel + 1 =>
      match readString [] (place.offset + 1) (place.rest.drop 1) with
      | .error failure =>
          let lost := Node.unreadable (spanOf place place)
          .stop ((lost, lost) :: before).reverse failure
      | .ok (name, behind) =>
          let key := Node.scalar (spanOf place behind) (scalarOf (.string name))
          let c := behind.skipBlank
          let lost := Node.unreadable (spanOf c c)
          match c.rest with
          | [] => .stop ((key, lost) :: before).reverse ⟨.endInObject, c.offset⟩
          | ':' :: rest =>
              match readValue fuel depth ⟨c.offset + 1, rest⟩ with
              | .done item next => readEntries fuel depth ((key, item) :: before) next
              | .stop item failure => .stop ((key, item) :: before).reverse failure
          | _ => .stop ((key, lost) :: before).reverse ⟨.expectedColon, c.peek⟩

end

/-- A text as a tree, with the failure that ended the reading before the end of the text. -/
def readDocument (text : List Char) : Node Span × Option Failure :=
  match readValue (3 * text.length + 3) nestingLimit (Cursor.start text) with
  | .stop node failure => (node, some failure)
  | .done node next =>
      let behind := next.skipBlank
      match behind.rest with
      | [] => (node, none)
      | _ :: _ => (node, some ⟨.trailingCharacters, behind.peek⟩)

/-- The error of a failure in a text. -/
def Failure.toError (text : List Char) (failure : Failure) : SyntaxError :=
  ⟨failure.fault, Position.ofOffset text failure.offset⟩

/-- Read a text as one JSON value. -/
def parse (text : String) : Except SyntaxError Json :=
  let chars := text.toList
  match readDocument chars with
  | (_, some failure) => .error (failure.toError chars)
  | (node, none) =>
      match node.value with
      | .ok value => .ok value
      | .error v => .error ⟨.expectedValue, Position.ofOffset chars (v.place.at v.side)⟩

end ResourceTemplate.Json

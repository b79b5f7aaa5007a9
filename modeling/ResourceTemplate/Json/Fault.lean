/-!
# What makes a text unreadable as JSON

A fault is named by its cause; the place where reading stopped is a line and a column, counted from
the bytes that were read.
-/

namespace ResourceTemplate.Json

/-- Why a text is not JSON. -/
inductive Fault where
  | endInValue
  | endInList
  | endInObject
  | endInString
  | expectedValue
  | expectedIdent
  | trailingCharacters
  | trailingComma
  | expectedCommaOrBracket
  | expectedCommaOrBrace
  | expectedColon
  | keyNotString
  | invalidNumber
  | numberOutOfRange
  | invalidEscape
  | endInHexEscape
  | loneSurrogate
  | controlCharacter
  | tooDeep
deriving DecidableEq

/-- The wording of a fault. -/
def Fault.message : Fault → String
  | endInValue => "EOF while parsing a value"
  | endInList => "EOF while parsing a list"
  | endInObject => "EOF while parsing an object"
  | endInString => "EOF while parsing a string"
  | expectedValue => "expected value"
  | expectedIdent => "expected ident"
  | trailingCharacters => "trailing characters"
  | trailingComma => "trailing comma"
  | expectedCommaOrBracket => "expected `,` or `]`"
  | expectedCommaOrBrace => "expected `,` or `\x7d`"
  | expectedColon => "expected `:`"
  | keyNotString => "key must be a string"
  | invalidNumber => "invalid number"
  | numberOutOfRange => "number out of range"
  | invalidEscape => "invalid escape"
  | endInHexEscape => "unexpected end of hex escape"
  | loneSurrogate => "lone leading surrogate in hex escape"
  | controlCharacter => "control character (\\u0000-\\u001F) found while parsing a string"
  | tooDeep => "recursion limit exceeded"

/-- A place in a text: lines count from one, columns are the bytes read on the line. -/
structure Position where
  line : Nat
  column : Nat
deriving DecidableEq

/-- The place reached after a number of bytes of a text, starting from a given place. -/
def Position.advance (place : Position) : List Char → Nat → Position
  | [], bytes => ⟨place.line, place.column + bytes⟩
  | c :: rest, bytes =>
      if bytes < c.utf8Size then ⟨place.line, place.column + bytes⟩
      else if c = '\n' then Position.advance ⟨place.line + 1, 0⟩ rest (bytes - 1)
      else Position.advance ⟨place.line, place.column + c.utf8Size⟩ rest (bytes - c.utf8Size)

/-- The place reached after a number of bytes of a text. -/
def Position.ofOffset (text : List Char) (bytes : Nat) : Position :=
  Position.advance ⟨1, 0⟩ text bytes

/-- How a place is written behind a message. -/
def Position.text (place : Position) : String :=
  s!"at line {place.line} column {place.column}"

/-- A fault and the place where it was met. -/
structure SyntaxError where
  fault : Fault
  place : Position
deriving DecidableEq

/-- The wording of an error with its place. -/
def SyntaxError.message (e : SyntaxError) : String :=
  e.fault.message ++ " " ++ e.place.text

end ResourceTemplate.Json

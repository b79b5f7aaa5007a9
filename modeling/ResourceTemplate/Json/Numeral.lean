import ResourceTemplate.Json.Basic
import ResourceTemplate.Json.Fault

/-!
# Numerals

A numeral without point and exponent is an integer while it fits in 64 bits, and a double beyond.
Any other numeral is a double.  Its digits are gathered into a significand of 64 bits; digits that
no longer fit count only for their place.  The significand and the power of ten are brought together
by one rounded product or quotient, in steps of at most `10 ^ 308`.

`Cursor` is a place in a text: the bytes before it and the characters behind it.
-/

namespace ResourceTemplate.Json

/-- A place in a text. -/
structure Cursor where
  /-- The bytes before the place. -/
  offset : Nat
  /-- What is still to be read. -/
  rest : List Char

namespace Cursor

/-- The start of a text. -/
def start (text : List Char) : Cursor := ⟨0, text⟩

/-- The offset that a fault has when it is seen in the next byte. -/
def peek (c : Cursor) : Nat :=
  match c.rest with
  | [] => c.offset
  | _ :: _ => c.offset + 1

/-- Skip the characters that satisfy a test, all of one byte. -/
def skipWhile (p : Char → Bool) (c : Cursor) : Cursor :=
  ⟨c.offset + (c.rest.takeWhile p).length, c.rest.dropWhile p⟩

/-- Whether a character separates tokens. -/
def isBlank (c : Char) : Bool :=
  c = ' ' || c = '\n' || c = '\t' || c = '\r'

/-- Skip blanks. -/
def skipBlank (c : Cursor) : Cursor := c.skipWhile isBlank

theorem takeWhile_append_skipWhile (p : Char → Bool) (c : Cursor) :
    c.rest.takeWhile p ++ (c.skipWhile p).rest = c.rest := by
  simp [skipWhile, List.takeWhile_append_dropWhile]

end Cursor

/-- A fault with the bytes that had been read when it was met. -/
structure Failure where
  fault : Fault
  offset : Nat

/-- The bound on significands. -/
def significandLimit : Nat := Nat.pow 2 64

/-- The value of a decimal digit. -/
def digitValue (c : Char) : Nat := c.toNat - '0'.toNat

/-- Append digits to a significand while it stays below the limit; the digits from the first that
does not fit are left over. -/
def absorb : Nat → List Char → Nat × List Char
  | significand, [] => (significand, [])
  | significand, d :: ds =>
      let next := significand * 10 + digitValue d
      if next < significandLimit then absorb next ds else (significand, d :: ds)

/-- The power of ten taken in one step. -/
def powerStep : Nat := 308

/-- Divide by a power of ten in steps. -/
def divideByPower : Nat → Binary64 → Nat → Option Binary64
  | 0, d, _ => some d
  | tries + 1, d, power =>
      if d.mantissa = 0 then some d
      else if power ≤ powerStep then
        (Binary64.ofRatio false (Nat.pow 10 power) 1).bind d.div
      else
        match (Binary64.ofRatio false (Nat.pow 10 powerStep) 1).bind d.div with
        | some quotient => divideByPower tries quotient (power - powerStep)
        | none => none

/-- The double of a significand and a power of ten, or nothing when it is beyond the greatest
double. -/
def composeDouble (negative : Bool) (significand : Nat) (power : Int) : Option Binary64 :=
  match Binary64.ofRatio negative significand 1 with
  | none => none
  | some d =>
      if power < 0 then divideByPower 4 d (-power).toNat
      else if power ≤ powerStep then (Binary64.ofRatio false (Nat.pow 10 power.toNat) 1).bind d.mul
      else if significand = 0 then some d
      else none

/-- Compose a double at a place where the numeral ends. -/
def finishDouble (negative : Bool) (significand : Nat) (power : Int) (c : Cursor) :
    Except Failure (Number × Cursor) :=
  match composeDouble negative significand power with
  | some d => .ok (.double d, c)
  | none => .error ⟨.numberOutOfRange, c.offset⟩

/-- The greatest exponent that is read as a number; digits that lead beyond it end the reading. -/
def exponentLimit : Nat := Nat.pow 2 31

/-- The value of exponent digits, or how many digits it takes to pass the limit. -/
def readExponentDigits (value taken : Nat) : List Char → Nat ⊕ Nat
  | [] => .inl value
  | d :: ds =>
      let next := value * 10 + digitValue d
      if next < exponentLimit then readExponentDigits next (taken + 1) ds else .inr (taken + 1)

/-- Read the exponent behind the letter that announces it. -/
def readExponent (negative : Bool) (significand : Nat) (power : Int) (c : Cursor) :
    Except Failure (Number × Cursor) :=
  let signed : Bool × Cursor := match c.rest with
    | '+' :: rest => (false, ⟨c.offset + 1, rest⟩)
    | '-' :: rest => (true, ⟨c.offset + 1, rest⟩)
    | _ => (false, c)
  let body := signed.2
  let digits := body.rest.takeWhile Char.isDigit
  let next := body.skipWhile Char.isDigit
  match body.rest with
  | [] => .error ⟨.endInValue, body.offset⟩
  | d :: _ =>
      if !d.isDigit then .error ⟨.invalidNumber, body.offset + 1⟩
      else
        match readExponentDigits 0 0 digits with
        | .inl exponent =>
            let total : Int := if signed.1 then power - exponent else power + exponent
            finishDouble negative significand total next
        | .inr taken =>
            if significand ≠ 0 && !signed.1 then .error ⟨.numberOutOfRange, body.offset + taken⟩
            else .ok (.double (Binary64.zero negative), next)

/-- Read what may follow the digits of a double: an exponent or nothing. -/
def readTail (negative : Bool) (significand : Nat) (power : Int) (c : Cursor) :
    Except Failure (Number × Cursor) :=
  match c.rest with
  | 'e' :: rest => readExponent negative significand power ⟨c.offset + 1, rest⟩
  | 'E' :: rest => readExponent negative significand power ⟨c.offset + 1, rest⟩
  | _ => finishDouble negative significand power c

/-- Read the digits behind the point. -/
def readFraction (negative : Bool) (significand : Nat) (power : Int) (c : Cursor) :
    Except Failure (Number × Cursor) :=
  let digits := c.rest.takeWhile Char.isDigit
  let next := c.skipWhile Char.isDigit
  if digits.isEmpty then
    match c.rest with
    | [] => .error ⟨.endInValue, c.offset⟩
    | _ :: _ => .error ⟨.invalidNumber, c.peek⟩
  else
    let absorbed := absorb significand digits
    let taken := digits.length - absorbed.2.length
    readTail negative absorbed.1 (power - taken) next

/-- The number of an integer numeral that fits in 64 bits. -/
def integerNumber (negative : Bool) (significand : Nat) : Number :=
  if !negative then .natural significand
  else if significand = 0 ∨ Nat.pow 2 63 < significand then
    .double ((Binary64.ofRatio true significand 1).getD (Binary64.zero true))
  else .negative (significand - 1)

/-- Read a numeral, of which the sign has been read. -/
def readNumeral (negative : Bool) (c : Cursor) : Except Failure (Number × Cursor) :=
  match c.rest with
  | [] => .error ⟨.endInValue, c.offset⟩
  | first :: rest =>
      if !first.isDigit then .error ⟨.invalidNumber, c.offset + 1⟩
      else
        let digits := if first = '0' then ['0'] else c.rest.takeWhile Char.isDigit
        let next : Cursor :=
          if first = '0' then ⟨c.offset + 1, rest⟩ else c.skipWhile Char.isDigit
        let absorbed := absorb 0 digits
        let excess := absorbed.2.length
        match next.rest with
        | '.' :: behind => readFraction negative absorbed.1 excess ⟨next.offset + 1, behind⟩
        | 'e' :: behind => readExponent negative absorbed.1 excess ⟨next.offset + 1, behind⟩
        | 'E' :: behind => readExponent negative absorbed.1 excess ⟨next.offset + 1, behind⟩
        | following =>
            if first = '0' && (following.head?.map Char.isDigit).getD false then
              .error ⟨.invalidNumber, next.peek⟩
            else if absorbed.2.isEmpty then .ok (integerNumber negative absorbed.1, next)
            else finishDouble negative absorbed.1 excess next

end ResourceTemplate.Json

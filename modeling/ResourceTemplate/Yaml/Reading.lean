import ResourceTemplate.Number.Binary64
import ResourceTemplate.Text.Hexadecimal

/-!
# Readings of plain scalars

A plain scalar is read as nothing, as a truth value, as an integer or as a double if it is written
like one, and as a text otherwise.  Integers may be written in base sixteen, eight or two; a decimal
with a needless zero in front is no number.
-/

namespace ResourceTemplate.Yaml

/-- What a plain scalar stands for. -/
inductive Reading where
  | null
  | bool (b : Bool)
  /-- An integer from `-2 ^ 63` to `2 ^ 64 - 1`. -/
  | integer (i : Int)
  /-- An integer beyond those, from `-2 ^ 127` to `2 ^ 128 - 1`. -/
  | wide (i : Int)
  | double (d : Binary64)
  | infinity (negative : Bool)
  | notANumber
  | text
deriving DecidableEq

namespace Reading

/-- Whether a text is written like nothing. -/
def isNull (s : String) : Bool := s = "null" || s = "Null" || s = "NULL" || s = "~"

/-- The truth value that a text is written like. -/
def flag? (s : String) : Option Bool :=
  if s = "true" ∨ s = "True" ∨ s = "TRUE" then some true
  else if s = "false" ∨ s = "False" ∨ s = "FALSE" then some false
  else none

/-- A text without its sign, and whether that was a minus. -/
def unsigned : List Char → Bool × List Char
  | '+' :: rest => (false, rest)
  | '-' :: rest => (true, rest)
  | cs => (false, cs)

/-- Whether a text is a decimal with a needless zero in front. -/
def isPadded (s : String) : Bool :=
  match (unsigned s.toList).2 with
  | '0' :: d :: rest => (d :: rest).all Char.isDigit
  | _ => false

/-- The magnitude that a text without sign is written like. -/
def magnitude? : List Char → Option Nat
  | '0' :: 'x' :: digits => Text.digits? 16 digits
  | '0' :: 'o' :: digits => Text.digits? 8 digits
  | '0' :: 'b' :: digits => Text.digits? 2 digits
  | ['0'] => some 0
  | '0' :: _ => none
  | digits => Text.digits? 10 digits

/-- The integer that a text is written like. -/
def integer? (s : String) : Option Int :=
  let split := unsigned s.toList
  match magnitude? split.2 with
  | some n => some (if split.1 then -(n : Int) else n)
  | none => none

/-- Whether an integer lies between two powers of two. -/
def fits (low high : Nat) (i : Int) : Bool := -Int.pow 2 low ≤ i && i < Int.pow 2 high

/-- The double that is written by digits with and without a point between them.  Numbers whose first
digit is far from the unit need no exact value to be known. -/
def finite? (negative : Bool) (whole fraction : List Char) (power : Int) : Option Binary64 :=
  let digits := (whole ++ fraction).dropWhile (· = '0')
  let shifted := power - fraction.length
  let count : Int := digits.length
  if digits.isEmpty ∨ count + shifted < -350 then some (Binary64.zero negative)
  else if 310 < count + shifted then none
  else
    match Text.digits? 10 digits with
    | some significand => Binary64.ofDecimal negative significand shifted
    | none => none

/-- The power of ten that is written behind the digits of a double. -/
def exponent? : List Char → Option Int
  | [] => some 0
  | e :: rest =>
      if e = 'e' ∨ e = 'E' then
        let split := unsigned rest
        match Text.digits? 10 split.2 with
        | some n => some (if split.1 then -(n : Int) else n)
        | none => none
      else none

/-- The finite double that a text without a plus in front is written like. -/
def decimal? (cs : List Char) : Option Binary64 :=
  let body := match cs with
    | '-' :: rest => (true, rest)
    | _ => (false, cs)
  let whole := body.2.takeWhile Char.isDigit
  let behind := body.2.dropWhile Char.isDigit
  let split : List Char × List Char := match behind with
    | '.' :: rest => (rest.takeWhile Char.isDigit, rest.dropWhile Char.isDigit)
    | _ => ([], behind)
  if whole.isEmpty && split.1.isEmpty then none
  else
    match exponent? split.2 with
    | some power => finite? body.1 whole split.1 power
    | none => none

/-- A text without a plus in front; nothing when another sign follows. -/
def unpositive? : List Char → Option (List Char)
  | '+' :: '-' :: _ => none
  | '+' :: rest => some rest
  | cs => some cs

/-- The double that a text is written like. -/
def double? (s : String) : Option Reading :=
  match unpositive? s.toList with
  | none => none
  | some body =>
      let unpositive := String.ofList body
      if unpositive = ".inf" ∨ unpositive = ".Inf" ∨ unpositive = ".INF" then some (infinity false)
      else if s = "-.inf" ∨ s = "-.Inf" ∨ s = "-.INF" then some (infinity true)
      else if s = ".nan" ∨ s = ".NaN" ∨ s = ".NAN" then some notANumber
      else (decimal? body).map double

/-- The number that a text is written like. -/
def number? (s : String) : Option Reading :=
  match (integer? s).filter (fits 127 128) with
  | some i => some (if fits 63 64 i then integer i else wide i)
  | none => none

/-- The reading of a plain scalar. -/
def ofPlain (s : String) : Reading :=
  if s = "" ∨ isNull s then null
  else
    match flag? s with
    | some b => bool b
    | none =>
        match number? s with
        | some r => r
        | none => if isPadded s then text else (double? s).getD text

/-- Whether a plain text would be taken for something else than itself, or for a number by a hasty
reader. -/
def isAmbiguous (s : String) : Bool := ofPlain s ≠ text || isPadded s

end Reading

end ResourceTemplate.Yaml

import ResourceTemplate.Number.Binary64

/-!
# The shortest decimal of a double

Among all decimals that read back as a given double, the one with the fewest digits is written, and
of several with equally few the one nearest to the double.  A decimal reads back exactly when it
lies in the interval of numbers that round to the double; the ends of that interval belong to it
when the mantissa is even.

The text has a point and at least one digit on each side of it.  Where a layout allows for an
exponent, this holds only while the decimal point falls between five places left of the first digit
and sixteen right of it.
-/

namespace ResourceTemplate.Binary64

/-- The decimal `digits * 10 ^ power`. -/
structure Decimal where
  digits : Nat
  power : Int
deriving DecidableEq

/-- The interval of numbers that round to a double, as numerators over one denominator, together
with the double itself. -/
structure Interval where
  low : Nat
  center : Nat
  high : Nat
  den : Nat
  closed : Bool

/-- The numbers nearer to the double than to its neighbours.  The gap below a power of two is half
the gap above it. -/
def interval (d : Binary64) : Interval :=
  let below := if d.mantissa = Nat.pow 2 52 ∧ minExponent < d.exponent then 1 else 2
  let unit : Nat × Nat :=
    if 2 ≤ d.exponent then (Nat.pow 2 (d.exponent - 2).toNat, 1)
    else (1, Nat.pow 2 (2 - d.exponent).toNat)
  { low := (4 * d.mantissa - below) * unit.1
    center := 4 * d.mantissa * unit.1
    high := (4 * d.mantissa + 2) * unit.1
    den := unit.2
    closed := d.mantissa % 2 = 0 }

/-- Whether the fraction `num / den` lies in an interval. -/
def Interval.contains (i : Interval) (num den : Nat) : Bool :=
  let low := i.low * den
  let high := i.high * den
  let value := num * i.den
  if i.closed then low ≤ value && value ≤ high else low < value && value < high

/-- The exponent of the first decimal digit of `num / den`. -/
def leadingPower (num den : Nat) : Int :=
  if den ≤ num then ((Nat.toDigits 10 (num / den)).length : Int) - 1
  else
    let times := (den + num - 1) / num
    (0 : Int) - ((Nat.toDigits 10 (times - 1)).length : Int)

/-- The decimal of a grid of step `10 ^ power` that reads back as the double, if there is one. -/
def onGrid? (i : Interval) (power : Int) : Option Decimal :=
  let step : Nat × Nat :=
    if 0 ≤ power then (Nat.pow 10 power.toNat, 1) else (1, Nat.pow 10 (-power).toNat)
  let floor := i.center * step.2 / (i.den * step.1)
  let rest := i.center * step.2 % (i.den * step.1)
  let reads := fun n => i.contains (n * step.1) step.2
  match reads floor, reads (floor + 1) with
  | true, true =>
      let up := i.den * step.1 < 2 * rest ∨ (2 * rest = i.den * step.1 ∧ floor % 2 = 1)
      some ⟨if up then floor + 1 else floor, power⟩
  | true, false => some ⟨floor, power⟩
  | false, true => some ⟨floor + 1, power⟩
  | false, false => none

/-- The first hit on ever finer grids, starting at the coarsest. -/
def firstHit (i : Interval) (power : Int) : Nat → Option Decimal
  | 0 => none
  | tries + 1 =>
      match onGrid? i power with
      | some decimal => some decimal
      | none => firstHit i (power - 1) tries

/-- Drop trailing zeros, at most as many as asked. -/
def Decimal.trim : Nat → Decimal → Decimal
  | 0, d => d
  | tries + 1, d =>
      if d.digits ≠ 0 ∧ d.digits % 10 = 0 then trim tries ⟨d.digits / 10, d.power + 1⟩ else d

/-- The shortest decimal that reads back as the magnitude of the double.  Seventeen digits always
suffice. -/
def shortest (d : Binary64) : Decimal :=
  if d.mantissa = 0 then ⟨0, 0⟩
  else
    let i := interval d
    ((firstHit i (leadingPower i.center i.den) 18).getD ⟨0, 0⟩).trim 20

/-- How decimals are laid out. -/
structure Layout where
  /-- Whether a number far from the unit is written with an exponent. -/
  scientific : Bool
  /-- Whether a positive exponent has a sign. -/
  signedExponent : Bool

/-- The digits of a decimal around its point. -/
def Decimal.positional (d : Decimal) : List Char :=
  let digits := Nat.toDigits 10 d.digits
  let point : Int := digits.length + d.power
  if 0 ≤ d.power then digits ++ List.replicate d.power.toNat '0' ++ ['.', '0']
  else if 0 < point then digits.take point.toNat ++ '.' :: digits.drop point.toNat
  else ['0', '.'] ++ List.replicate (-point).toNat '0' ++ digits

/-- The digits of a decimal with a point behind the first of several. -/
def Decimal.mantissa (d : Decimal) : List Char :=
  match Nat.toDigits 10 d.digits with
  | first :: second :: rest => first :: '.' :: second :: rest
  | digits => digits

/-- The exponent of the first digit of a decimal. -/
def Decimal.exponent (d : Decimal) : Int := (Nat.toDigits 10 d.digits).length + d.power - 1

/-- The text of a decimal. -/
def Decimal.text (layout : Layout) (d : Decimal) : String :=
  let exponent := d.exponent
  if d.digits = 0 then "0.0"
  else if !layout.scientific || (-5 ≤ exponent && exponent ≤ 15) then String.ofList d.positional
  else
    let sign := if layout.signedExponent && 0 ≤ exponent then "+" else ""
    String.ofList d.mantissa ++ "e" ++ sign ++ toString exponent

/-- The text of a double. -/
def text (layout : Layout) (d : Binary64) : String :=
  if d.negative then "-" ++ d.shortest.text layout else d.shortest.text layout

end ResourceTemplate.Binary64

/-!
# Finite double precision numbers

A double is kept as a sign, a mantissa and a power of two, so that every step on it is a step on
natural numbers.  Two operations are needed: the double nearest to a quotient, and products and
quotients of doubles rounded the same way.  A half goes to the even mantissa.
-/

namespace ResourceTemplate

/-- The number `mantissa * 2 ^ exponent`, negated when `negative`.  The mantissa is below `2 ^ 53`,
the exponent between `-1074` and `971`, and the mantissa at least `2 ^ 52` unless the exponent is
`-1074`, so that equal numbers of equal sign are equal records. -/
structure Binary64 where
  negative : Bool
  mantissa : Nat
  exponent : Int
deriving DecidableEq

namespace Binary64

/-- The least exponent of a double. -/
def minExponent : Int := -1074

/-- The greatest exponent of a double. -/
def maxExponent : Int := 971

/-- The quotient rounded to the nearest natural number, a half to the even one. -/
def roundHalfEven (num den : Nat) : Nat :=
  let quotient := num / den
  let twice := 2 * (num % den)
  if twice < den then quotient
  else if den < twice then quotient + 1
  else quotient + quotient % 2

/-- The fraction `num / den` divided by `2 ^ exponent`. -/
def descale (num den : Nat) (exponent : Int) : Nat × Nat :=
  if 0 ≤ exponent then (num, den * Nat.pow 2 exponent.toNat)
  else (num * Nat.pow 2 (-exponent).toNat, den)

/-- The exponent that leaves `num / den` a mantissa of 53 binary digits, or the least exponent when
the number is too small for so many. -/
def exponentFor (num den : Nat) : Int :=
  let guess : Int := (num.log2 : Int) - (den.log2 : Int) - 53
  let scaled := descale num den guess
  let exponent := if scaled.1 / scaled.2 < Nat.pow 2 53 then guess else guess + 1
  max exponent minExponent

/-- The double nearest to `num / den`, or nothing when it is beyond the greatest double. -/
def ofRatio (negative : Bool) (num den : Nat) : Option Binary64 :=
  if num = 0 then some ⟨negative, 0, minExponent⟩
  else
    let exponent := exponentFor num den
    let scaled := descale num den exponent
    let mantissa := roundHalfEven scaled.1 scaled.2
    let carried : Nat × Int :=
      if mantissa = Nat.pow 2 53 then (Nat.pow 2 52, exponent + 1) else (mantissa, exponent)
    if maxExponent < carried.2 then none else some ⟨negative, carried.1, carried.2⟩

/-- The magnitude as an exact fraction. -/
def magnitude (d : Binary64) : Nat × Nat :=
  if 0 ≤ d.exponent then (d.mantissa * Nat.pow 2 d.exponent.toNat, 1)
  else (d.mantissa, Nat.pow 2 (-d.exponent).toNat)

/-- The double nearest to `significand * 10 ^ power`. -/
def ofDecimal (negative : Bool) (significand : Nat) (power : Int) : Option Binary64 :=
  if 0 ≤ power then ofRatio negative (significand * Nat.pow 10 power.toNat) 1
  else ofRatio negative significand (Nat.pow 10 (-power).toNat)

/-- The rounded product of two doubles, with the sign of the first. -/
def mul (a b : Binary64) : Option Binary64 :=
  ofRatio a.negative (a.magnitude.1 * b.magnitude.1) (a.magnitude.2 * b.magnitude.2)

/-- The rounded quotient of two doubles, with the sign of the first. -/
def div (a b : Binary64) : Option Binary64 :=
  ofRatio a.negative (a.magnitude.1 * b.magnitude.2) (a.magnitude.2 * b.magnitude.1)

/-- The number zero, with a sign. -/
def zero (negative : Bool) : Binary64 := ⟨negative, 0, minExponent⟩

theorem roundHalfEven_mul_self (q : Nat) {den : Nat} (h : 0 < den) :
    roundHalfEven (q * den) den = q := by
  simp [roundHalfEven, Nat.mul_div_cancel _ h, h]

theorem ofRatio_zero (negative : Bool) (den : Nat) :
    ofRatio negative 0 den = some (zero negative) := by
  simp [ofRatio, zero]

end Binary64

end ResourceTemplate

/-!
# Hexadecimal digits
-/

namespace ResourceTemplate.Text

/-- The value of a hexadecimal digit. -/
def hexDigit? (c : Char) : Option Nat :=
  if c.isDigit then some (c.toNat - '0'.toNat)
  else if 'a' ≤ c ∧ c ≤ 'f' then some (c.toNat - 'a'.toNat + 10)
  else if 'A' ≤ c ∧ c ≤ 'F' then some (c.toNat - 'A'.toNat + 10)
  else none

/-- The number written by digits of a base of at most sixteen, the most significant first, added to
what was read before. -/
def readDigits? (base value : Nat) : List Char → Option Nat
  | [] => some value
  | c :: rest =>
      match hexDigit? c with
      | some digit => if digit < base then readDigits? base (value * base + digit) rest else none
      | none => none

/-- Digits are a number if the first is one of the base and the others go on from what it adds. -/
theorem readDigits?_cons_eq_some {base value n : Nat} {c : Char} {rest : List Char} :
    readDigits? base value (c :: rest) = some n ↔ ∃ digit, hexDigit? c = some digit ∧
      digit < base ∧ readDigits? base (value * base + digit) rest = some n := by
  simp only [readDigits?]
  cases hexDigit? c with
  | none => simp
  | some digit => by_cases hlt : digit < base <;> simp [hlt]

/-- The number written by at least one digit of a base. -/
def digits? (base : Nat) (cs : List Char) : Option Nat :=
  if cs.isEmpty then none else readDigits? base 0 cs

/-- The last so many hexadecimal digits of a number, in upper case. -/
def upperHex (width n : Nat) : List Char :=
  match width with
  | 0 => []
  | width + 1 => upperHex width (n / 16) ++ [(Nat.digitChar (n % 16)).toUpper]

end ResourceTemplate.Text

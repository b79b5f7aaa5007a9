import Mathlib.Data.List.TakeWhile
import ResourceTemplate.Proofs.Notation.Written

/-!
# Integers of the shared notation

The decimal digits of an integer within 64 bits, without needless zeros in front, are a numeral of
that integer in both notations.  Only the zero with a minus is not: it is a double in JSON.
-/

namespace ResourceTemplate.Notation

open Yaml

/-- Digits that are a natural number below `2 ^ 64`, without needless zeros in front. -/
structure Decimal (digits : List Char) (n : Nat) : Prop where
  value : Text.digits? 10 digits = some n
  unpadded : digits.head? = some '0' → digits = ['0']
  fits : n < Json.significandLimit

/-! ## Digits -/

theorem isDigit_of_hexDigit? {c : Char} {digit : Nat} (h : Text.hexDigit? c = some digit)
    (hlt : digit < 10) : c.isDigit = true ∧ Json.digitValue c = digit := by
  unfold Text.hexDigit? at h
  split at h
  next hdigit => exact ⟨hdigit, Option.some.inj h⟩
  next =>
    split at h
    · have hvalue := Option.some.inj h
      omega
    · split at h
      · have hvalue := Option.some.inj h
        omega
      · simp at h

theorem le_of_readDigits? {digits : List Char} {value n : Nat}
    (h : Text.readDigits? 10 value digits = some n) : value ≤ n := by
  induction digits generalizing value with
  | nil => exact Nat.le_of_eq (Option.some.inj h)
  | cons c digits ih =>
      obtain ⟨digit, -, -, hrest⟩ := Text.readDigits?_cons_eq_some.mp h
      have hle := ih hrest
      omega

/-- Below the limit JSON takes every digit in. -/
theorem absorb_of_readDigits? {digits : List Char} {value n : Nat}
    (h : Text.readDigits? 10 value digits = some n) (hn : n < Json.significandLimit) :
    Json.absorb value digits = (n, []) ∧ ∀ c ∈ digits, c.isDigit = true := by
  induction digits generalizing value with
  | nil =>
      obtain rfl := Option.some.inj h
      exact ⟨rfl, by simp⟩
  | cons c digits ih =>
      obtain ⟨digit, hdigit, hlt, htail⟩ := Text.readDigits?_cons_eq_some.mp h
      obtain ⟨hisDigit, hvalue⟩ := isDigit_of_hexDigit? hdigit hlt
      obtain ⟨habsorb, hrest⟩ := ih htail
      have hnext : value * 10 + digit < Json.significandLimit :=
        Nat.lt_of_le_of_lt (le_of_readDigits? htail) hn
      refine ⟨?_, List.forall_mem_cons.mpr ⟨hisDigit, hrest⟩⟩
      simp only [Json.absorb, hvalue, if_pos hnext, habsorb]

/-! ## Signs -/

/-- The characters of a number with its sign. -/
def withSign (negative : Bool) (chars : List Char) : List Char :=
  if negative then '-' :: chars else chars

section Sign

variable {first : Char} (hdigit : first.isDigit = true) (negative : Bool) (tail : List Char)
include hdigit

theorem wholeNumber?_withSign : Json.wholeNumber? (withSign negative (first :: tail)) =
    Json.atEnd? (Json.readNumeral negative ⟨if negative then 1 else 0, first :: tail⟩) := by
  cases negative with
  | true => rfl
  | false =>
      show Json.wholeNumber? (first :: tail) = _
      unfold Json.wholeNumber?
      split
      next digits heq =>
        obtain ⟨rfl, -⟩ := List.cons.inj heq
        exact absurd hdigit (by decide)
      next => rfl

theorem unsigned_withSign :
    Reading.unsigned (withSign negative (first :: tail)) = (negative, first :: tail) := by
  cases negative with
  | true => rfl
  | false =>
      show Reading.unsigned (first :: tail) = _
      unfold Reading.unsigned
      split
      next rest heq =>
        obtain ⟨rfl, -⟩ := List.cons.inj heq
        exact absurd hdigit (by decide)
      next rest heq =>
        obtain ⟨rfl, -⟩ := List.cons.inj heq
        exact absurd hdigit (by decide)
      next => rfl

end Sign

namespace Decimal

variable {digits : List Char} {n : Nat}

theorem absorb (h : Decimal digits n) : Json.absorb 0 digits = (n, []) ∧
    ∀ c ∈ digits, c.isDigit = true := by
  have hvalue := h.value
  unfold Text.digits? at hvalue
  split at hvalue
  · simp at hvalue
  · exact absorb_of_readDigits? hvalue h.fits

theorem exists_eq_cons (h : Decimal digits n) :
    ∃ first tail, digits = first :: tail ∧ first.isDigit = true := by
  cases digits with
  | nil =>
      have hvalue := h.value
      simp [Text.digits?] at hvalue
  | cons first tail => exact ⟨first, tail, rfl, h.absorb.2 first List.mem_cons_self⟩

/-! ## In JSON -/

theorem readNumeral (h : Decimal digits n) (negative : Bool) (start : Nat) :
    ∃ stop, Json.readNumeral negative ⟨start, digits⟩ =
      .ok (Json.integerNumber negative n, ⟨stop, []⟩) := by
  obtain ⟨habsorb, hall⟩ := h.absorb
  obtain ⟨first, tail, rfl, hdigit⟩ := h.exists_eq_cons
  have hend : Json.EndsNumeral [] := by simp [Json.EndsNumeral]
  by_cases hzero : first = '0'
  · subst hzero
    obtain rfl : tail = [] := (List.cons.inj (h.unpadded rfl)).2
    refine ⟨start + 1, ?_⟩
    rw [Json.readNumeral_zero, habsorb, Json.readBehindWhole_of_endsNumeral hend]
    rfl
  · have htake : (first :: tail).takeWhile Char.isDigit = first :: tail :=
      List.takeWhile_eq_self_iff.mpr hall
    have hdrop : (first :: tail).dropWhile Char.isDigit = [] := List.dropWhile_eq_nil_iff.mpr hall
    refine ⟨start + (first :: tail).length, ?_⟩
    rw [Json.readNumeral_of_ne_zero hdigit hzero, htake, habsorb]
    simp only [Json.Cursor.skipWhile, htake, hdrop, Json.readBehindWhole_of_endsNumeral hend,
      List.isEmpty_nil, if_true]

theorem wholeNumber? (h : Decimal digits n) (negative : Bool) :
    Json.wholeNumber? (withSign negative digits) = some (Json.integerNumber negative n) := by
  obtain ⟨stop, hread⟩ := h.readNumeral negative (if negative then 1 else 0)
  obtain ⟨first, tail, rfl, hdigit⟩ := h.exists_eq_cons
  rw [wholeNumber?_withSign hdigit, hread]
  rfl

/-! ## In YAML -/

theorem magnitude? (h : Decimal digits n) : Reading.magnitude? digits = some n := by
  have hunpadded := h.unpadded
  have hvalue := h.value
  unfold Reading.magnitude?
  split
  next => simp at hunpadded
  next => simp at hunpadded
  next => simp at hunpadded
  next => exact hvalue
  next hmore => exact absurd (List.cons.inj (hunpadded rfl)).2 hmore
  next => exact hvalue

theorem integer? (h : Decimal digits n) (negative : Bool) :
    Reading.integer? (String.ofList (withSign negative digits)) =
      some (if negative then -(n : Int) else n) := by
  have hmagnitude := h.magnitude?
  obtain ⟨first, tail, rfl, hdigit⟩ := h.exists_eq_cons
  simp only [Reading.integer?, String.toList_ofList, unsigned_withSign hdigit, hmagnitude]

end Decimal

/-- Whether a character may stand in a number without exponent. -/
def isNumeric (c : Char) : Bool := c.isDigit || c = '.' || c = '-'

/-- The words that are read as nothing, as a truth value, or as a double that is no number. -/
def otherWords : List String :=
  ["null", "Null", "NULL", "~", "true", "True", "TRUE", "false", "False", "FALSE",
    ".inf", ".Inf", ".INF", "-.inf", "-.Inf", "-.INF", ".nan", ".NaN", ".NAN"]

theorem otherWords_not_numeric :
    (otherWords.all fun word => !word.toList.all isNumeric) = true := by
  decide

section Numeric

variable {chars : List Char} (hnumeric : ∀ c ∈ chars, isNumeric c = true)
include hnumeric

/-- None of the words of other readings looks like a number. -/
theorem ofList_ne_of_mem_otherWords : ∀ word ∈ otherWords, String.ofList chars ≠ word := by
  rintro word hword rfl
  have hother := List.all_eq_true.mp otherWords_not_numeric _ hword
  rw [String.toList_ofList, List.all_eq_true.mpr hnumeric] at hother
  simp at hother

/-- What looks like a number is none of the words that are read as nothing. -/
theorem not_nothing_of_isNumeric (hne : chars ≠ []) :
    ¬ (String.ofList chars = "" ∨ Reading.isNull (String.ofList chars) = true) := by
  have hempty : String.ofList chars ≠ "" := by
    intro heq
    have hnil := congrArg String.toList heq
    rw [String.toList_ofList] at hnil
    exact hne hnil
  have hother := ofList_ne_of_mem_otherWords hnumeric
  simp only [otherWords, List.forall_mem_cons] at hother
  simp only [Reading.isNull, hempty, hother, decide_false, Bool.or_false, Bool.false_eq_true,
    or_false, not_false_eq_true]

/-- Neither is it a truth value. -/
theorem flag?_of_isNumeric : Reading.flag? (String.ofList chars) = none := by
  have hother := ofList_ne_of_mem_otherWords hnumeric
  simp only [otherWords, List.forall_mem_cons] at hother
  simp only [Reading.flag?, hother, or_false, if_false]

theorem ofPlain_eq_number (hne : chars ≠ []) {r : Reading}
    (hnumber : Reading.number? (String.ofList chars) = some r) :
    Reading.ofPlain (String.ofList chars) = r := by
  simp only [Reading.ofPlain, if_neg (not_nothing_of_isNumeric hnumeric hne),
    flag?_of_isNumeric hnumeric, hnumber]

theorem ofPlain_eq_double (hne : chars ≠ []) {r : Reading}
    (hnumber : Reading.number? (String.ofList chars) = none)
    (hpadded : Reading.isPadded (String.ofList chars) = false)
    (hdouble : Reading.double? (String.ofList chars) = some r) :
    Reading.ofPlain (String.ofList chars) = r := by
  simp only [Reading.ofPlain, if_neg (not_nothing_of_isNumeric hnumeric hne),
    flag?_of_isNumeric hnumeric, hnumber, hpadded, hdouble, Bool.false_eq_true, if_false,
    Option.getD_some]

theorem ofPlain_eq_integer (hne : chars ≠ []) {i : Int}
    (hinteger : Reading.integer? (String.ofList chars) = some i) (hlow : -Int.pow 2 63 ≤ i)
    (hhigh : i < Int.pow 2 64) : Reading.ofPlain (String.ofList chars) = .integer i := by
  have hwide : Reading.fits 127 128 i = true := by
    simp only [Reading.fits, Bool.and_eq_true, decide_eq_true_eq]
    have hleft : -Int.pow 2 127 ≤ -Int.pow 2 63 := by decide
    have hright : Int.pow 2 64 ≤ Int.pow 2 128 := by decide
    exact ⟨Int.le_trans hleft hlow, Int.lt_of_lt_of_le hhigh hright⟩
  have hfits : Reading.fits 63 64 i = true := by
    simp only [Reading.fits, Bool.and_eq_true, decide_eq_true_eq]
    exact ⟨hlow, hhigh⟩
  refine ofPlain_eq_number hnumeric hne ?_
  simp only [Reading.number?, hinteger, Option.filter, hwide, hfits, if_true]

end Numeric

namespace Decimal

variable {digits : List Char} {n : Nat}

theorem isNumeric (h : Decimal digits n) : ∀ c ∈ digits, isNumeric c = true := by
  intro c hc
  simp [Notation.isNumeric, h.absorb.2 c hc]

theorem ne_nil (h : Decimal digits n) : digits ≠ [] := by
  obtain ⟨first, tail, rfl, -⟩ := h.exists_eq_cons
  exact List.cons_ne_nil first tail

/-- A natural number below `2 ^ 64` is the same in both notations. -/
theorem numeral (h : Decimal digits n) : Numeral digits (.natural n) := by
  have hread : Reading.ofPlain (String.ofList digits) = .integer n := by
    have hlow : -Int.pow 2 63 ≤ 0 := by decide
    have hhigh : (n : Int) < (Json.significandLimit : Nat) := Int.ofNat_lt.mpr h.fits
    exact ofPlain_eq_integer h.isNumeric h.ne_nil (h.integer? false)
      (Int.le_trans hlow (Int.natCast_nonneg n)) hhigh
  refine ⟨fun c hc => ?_, h.wholeNumber? false, by rw [hread]; rfl⟩
  simp [Json.isNumeralChar, h.absorb.2 c hc]

/-- So is a negative one down to `-2 ^ 63`. -/
theorem numeral_neg (h : Decimal digits n) (hpos : 0 < n) (hn : n ≤ Nat.pow 2 63) :
    Numeral ('-' :: digits) (.negative (n - 1)) := by
  have hread : Reading.ofPlain (String.ofList ('-' :: digits)) = .integer (-(n : Int)) := by
    have hlow : (n : Int) ≤ (Nat.pow 2 63 : Nat) := Int.ofNat_le.mpr hn
    have hhigh : 0 < Int.pow 2 64 := by decide
    have hnegative : -(n : Int) ≤ 0 := by omega
    have hnumeric : ∀ c ∈ '-' :: digits, Notation.isNumeric c = true :=
      List.forall_mem_cons.mpr ⟨by decide, h.isNumeric⟩
    exact ofPlain_eq_integer hnumeric (List.cons_ne_nil '-' digits) (h.integer? true)
      (Int.neg_le_neg hlow) (Int.lt_of_le_of_lt hnegative hhigh)
  have hvalue : Json.ofInt (-(n : Int)) = .number (.negative (n - 1)) := by
    obtain ⟨m, rfl⟩ : ∃ m, n = m + 1 := ⟨n - 1, by omega⟩
    rfl
  have hnumber : Json.integerNumber true n = .negative (n - 1) := by
    have hwide : ¬ (n = 0 ∨ Nat.pow 2 63 < n) := by omega
    simp only [Json.integerNumber, Bool.not_true, Bool.false_eq_true, if_false, if_neg hwide]
  refine ⟨List.forall_mem_cons.mpr ⟨by decide, fun c hc => ?_⟩, hnumber ▸ h.wholeNumber? true, ?_⟩
  · simp [Json.isNumeralChar, h.absorb.2 c hc]
  · rw [hread, ← hvalue]
    rfl

end Decimal

end ResourceTemplate.Notation

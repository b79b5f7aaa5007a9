import ResourceTemplate.Proofs.Notation.Numeral
import ResourceTemplate.Proofs.Number.Rounding

/-!
# Decimals of the shared notation

A decimal with digits on both sides of its point is a numeral of the same double in both notations,
if its significand lies below `2 ^ 53` and at most fifteen digits stand behind the point.  JSON
composes the double of two others and YAML rounds the decimal at once; within these bounds that
makes no difference.
-/

namespace ResourceTemplate.Notation

open Yaml

/-- Digits before and behind a point that are a short decimal, without needless zeros in front. -/
structure Fraction (whole fraction : List Char) (significand : Nat) : Prop where
  value : Text.digits? 10 (whole ++ fraction) = some significand
  whole_ne : whole ≠ []
  fraction_ne : fraction ≠ []
  unpadded : whole.head? = some '0' → whole = ['0']
  fits : significand < 2 ^ 53
  short : fraction.length ≤ 15

/-- The finite double of characters of which the sign has been read. -/
def unsignedDecimal? (negative : Bool) (chars : List Char) : Option Binary64 :=
  let whole := chars.takeWhile Char.isDigit
  let behind := chars.dropWhile Char.isDigit
  let split : List Char × List Char := match behind with
    | '.' :: rest => (rest.takeWhile Char.isDigit, rest.dropWhile Char.isDigit)
    | _ => ([], behind)
  if whole.isEmpty && split.1.isEmpty then none
  else
    match Reading.exponent? split.2 with
    | some power => Reading.finite? negative whole split.1 power
    | none => none

theorem decimal?_withSign {first : Char} (hdigit : first.isDigit = true) (negative : Bool)
    (tail : List Char) : Reading.decimal? (withSign negative (first :: tail)) =
      unsignedDecimal? negative (first :: tail) := by
  cases negative with
  | true => rfl
  | false =>
      show Reading.decimal? (first :: tail) = _
      unfold Reading.decimal?
      split
      next heq =>
        obtain ⟨rfl, -⟩ := List.cons.inj heq
        exact absurd hdigit (by decide)
      next => rfl

/-! ## Digits -/

theorem readDigits?_append (base value : Nat) (left right : List Char) :
    Text.readDigits? base value (left ++ right) =
      (Text.readDigits? base value left).bind fun n => Text.readDigits? base n right := by
  induction left generalizing value with
  | nil => rfl
  | cons c left ih =>
      simp only [List.cons_append, Text.readDigits?]
      split
      · split
        · exact ih _
        · rfl
      · rfl

theorem readDigits?_eq_none {base value : Nat} {c : Char} (hc : Text.hexDigit? c = none)
    {chars : List Char} (hmem : c ∈ chars) : Text.readDigits? base value chars = none := by
  obtain ⟨left, right, rfl⟩ := List.append_of_mem hmem
  rw [readDigits?_append]
  cases Text.readDigits? base value left with
  | none => rfl
  | some n => simp only [Option.bind_some, Text.readDigits?, hc]

/-- Zeros in front add nothing. -/
theorem readDigits?_dropWhile (digits : List Char) :
    Text.readDigits? 10 0 (digits.dropWhile (· = '0')) = Text.readDigits? 10 0 digits := by
  induction digits with
  | nil => rfl
  | cons c digits ih =>
      by_cases hzero : c = '0'
      · subst hzero
        rw [List.dropWhile_cons_of_pos (by decide), ih]
        rfl
      · rw [List.dropWhile_cons_of_neg (by simpa using hzero)]

theorem mul_pow_le_of_readDigits? {digits : List Char} {value n : Nat}
    (h : Text.readDigits? 10 value digits = some n) : value * 10 ^ digits.length ≤ n := by
  induction digits generalizing value with
  | nil => simpa using Nat.le_of_eq (Option.some.inj h)
  | cons c digits ih =>
      obtain ⟨digit, -, -, hrest⟩ := Text.readDigits?_cons_eq_some.mp h
      calc value * 10 ^ (digits.length + 1)
          = value * 10 * 10 ^ digits.length := by rw [pow_succ]; ring
        _ ≤ (value * 10 + digit) * 10 ^ digits.length :=
            Nat.mul_le_mul_right _ (Nat.le_add_right _ _)
        _ ≤ n := ih hrest

/-- A number below `2 ^ 53` has at most sixteen digits behind its leading zeros. -/
theorem length_le_of_readDigits? {c : Char} {digits : List Char} {n : Nat} (hzero : c ≠ '0')
    (h : Text.readDigits? 10 0 (c :: digits) = some n) (hn : n < 2 ^ 53) :
    (c :: digits).length ≤ 16 := by
  obtain ⟨digit, hdigit, hlt, hrest⟩ := Text.readDigits?_cons_eq_some.mp h
  obtain ⟨hisDigit, hvalue⟩ := isDigit_of_hexDigit? hdigit hlt
  have hpos : 0 < digit := by
    refine Nat.pos_of_ne_zero fun hnone => hzero (Char.toNat_inj.mp ?_)
    have hlow := (Char.isDigit_iff_toNat.mp hisDigit).1
    have hten : '0'.toNat = 48 := rfl
    simp only [Json.digitValue] at hvalue
    omega
  -- With more digits the first of them alone would be worth more than the number.
  have hle := mul_pow_le_of_readDigits? hrest
  by_contra hlong
  have hpow : 10 ^ 16 ≤ 10 ^ digits.length :=
    Nat.pow_le_pow_right (by norm_num) (by simp only [List.length_cons] at hlong; omega)
  have hlead : 10 ^ digits.length ≤ (0 * 10 + digit) * 10 ^ digits.length :=
    Nat.le_mul_of_pos_left _ (by omega)
  have hbound : 2 ^ 53 < 10 ^ 16 := by norm_num
  omega

namespace Fraction

variable {whole fraction : List Char} {significand : Nat}

theorem readDigits? (h : Fraction whole fraction significand) :
    Text.readDigits? 10 0 (whole ++ fraction) = some significand := by
  have hvalue := h.value
  unfold Text.digits? at hvalue
  split at hvalue
  · simp at hvalue
  · exact hvalue

/-- The whole part is a number, and the significand is what it becomes with the other digits. -/
theorem parts (h : Fraction whole fraction significand) :
    ∃ front, Text.readDigits? 10 0 whole = some front ∧
      Text.readDigits? 10 front fraction = some significand := by
  have hvalue := h.readDigits?
  rw [readDigits?_append] at hvalue
  exact Option.bind_eq_some_iff.mp hvalue

theorem absorb (h : Fraction whole fraction significand) :
    ∃ front, Json.absorb 0 whole = (front, []) ∧ (∀ c ∈ whole, c.isDigit = true) ∧
      Json.absorb front fraction = (significand, []) ∧ ∀ c ∈ fraction, c.isDigit = true := by
  have hlimit : significand < Json.significandLimit := lt_trans h.fits (by decide)
  obtain ⟨front, hwhole, hfraction⟩ := h.parts
  obtain ⟨habsorb, hdigits⟩ := absorb_of_readDigits? hfraction hlimit
  have hfront := Nat.lt_of_le_of_lt (le_of_readDigits? hfraction) hlimit
  obtain ⟨hfirst, hall⟩ := absorb_of_readDigits? hwhole hfront
  exact ⟨front, hfirst, hall, habsorb, hdigits⟩

theorem takeWhile_whole (h : Fraction whole fraction significand) :
    (whole ++ '.' :: fraction).takeWhile Char.isDigit = whole ∧
      (whole ++ '.' :: fraction).dropWhile Char.isDigit = '.' :: fraction := by
  obtain ⟨-, -, hall, -⟩ := h.absorb
  rw [List.takeWhile_append_of_pos hall, List.dropWhile_append_of_pos hall]
  exact ⟨List.append_nil whole, rfl⟩

theorem takeWhile_fraction (h : Fraction whole fraction significand) :
    fraction.takeWhile Char.isDigit = fraction ∧ fraction.dropWhile Char.isDigit = [] := by
  obtain ⟨-, -, -, -, hall⟩ := h.absorb
  exact ⟨List.takeWhile_eq_self_iff.mpr hall, List.dropWhile_eq_nil_iff.mpr hall⟩

/-- The whole part is zero, or begins with another digit. -/
theorem whole_cases (h : Fraction whole fraction significand) :
    whole = ['0'] ∨ ∃ first tail, whole = first :: tail ∧ first.isDigit = true ∧ first ≠ '0' := by
  obtain ⟨-, -, hall, -⟩ := h.absorb
  have hunpadded := h.unpadded
  cases hwhole : whole with
  | nil => exact absurd hwhole h.whole_ne
  | cons first tail =>
      rw [hwhole] at hall hunpadded
      by_cases hzero : first = '0'
      · exact .inl (hunpadded (congrArg some hzero))
      · exact .inr ⟨first, tail, rfl, hall first List.mem_cons_self, hzero⟩

theorem exists_double (h : Fraction whole fraction significand) (negative : Bool) :
    ∃ d, Binary64.ofDecimal negative significand (-(fraction.length : Int)) = some d := by
  have hbelow : ¬ 0 ≤ -(fraction.length : Int) := by
    have hlength := List.length_pos_iff.mpr h.fraction_ne
    omega
  rw [Binary64.ofDecimal, if_neg hbelow]
  exact Binary64.exists_ofRatio negative h.fits _

/-! ## In JSON -/

variable {negative : Bool} {d : Binary64}

theorem readFraction (h : Fraction whole fraction significand)
    (hd : Binary64.ofDecimal negative significand (-(fraction.length : Int)) = some d)
    {front : Nat} (habsorb : Json.absorb front fraction = (significand, [])) (start : Nat) :
    ∃ stop, Json.readFraction negative front 0 ⟨start, fraction⟩ = .ok (.double d, ⟨stop, []⟩) := by
  obtain ⟨htake, hdrop⟩ := h.takeWhile_fraction
  have hpower : (0 : Int) - ((fraction.length - ([] : List Char).length : Nat) : Int) =
      -(fraction.length : Int) := by
    simp
  -- The only place where it matters how the two readers come to their doubles.
  have hcompose : Json.composeDouble negative significand (-(fraction.length : Int)) = some d := by
    rw [Json.composeDouble_eq_ofDecimal negative h.fits (List.length_pos_iff.mpr h.fraction_ne)
      h.short, hd]
  have hne : fraction.isEmpty = false := by simp [h.fraction_ne]
  refine ⟨start + fraction.length, ?_⟩
  simp only [Json.readFraction, Json.Cursor.skipWhile, htake, hdrop, hne, Bool.false_eq_true,
    if_false, habsorb]
  rw [hpower, Json.readTail_of_endsNumeral (by simp [Json.EndsNumeral])]
  simp only [Json.finishDouble, hcompose]

theorem readNumeral (h : Fraction whole fraction significand)
    (hd : Binary64.ofDecimal negative significand (-(fraction.length : Int)) = some d)
    (start : Nat) :
    ∃ stop, Json.readNumeral negative ⟨start, whole ++ '.' :: fraction⟩ =
      .ok (.double d, ⟨stop, []⟩) := by
  obtain ⟨front, hfront, -, habsorb, -⟩ := h.absorb
  rcases h.whole_cases with rfl | ⟨first, tail, rfl, hdigit, hzero⟩
  · obtain ⟨stop, hread⟩ := h.readFraction hd habsorb (start + 2)
    refine ⟨stop, ?_⟩
    rw [List.cons_append, Json.readNumeral_zero, hfront, ← hread]
    rfl
  · obtain ⟨htake, hdrop⟩ := h.takeWhile_whole
    obtain ⟨stop, hread⟩ := h.readFraction hd habsorb (start + (first :: tail).length + 1)
    refine ⟨stop, ?_⟩
    rw [List.cons_append] at htake hdrop
    rw [List.cons_append, Json.readNumeral_of_ne_zero hdigit hzero, htake, hfront, ← hread]
    simp only [Json.Cursor.skipWhile, htake, hdrop]
    rfl

theorem exists_eq_cons (h : Fraction whole fraction significand) :
    ∃ first tail, whole ++ '.' :: fraction = first :: tail ∧ first.isDigit = true := by
  rcases h.whole_cases with rfl | ⟨first, tail, rfl, hdigit, -⟩
  · exact ⟨'0', _, rfl, by decide⟩
  · exact ⟨first, _, rfl, hdigit⟩

theorem wholeNumber? (h : Fraction whole fraction significand)
    (hd : Binary64.ofDecimal negative significand (-(fraction.length : Int)) = some d) :
    Json.wholeNumber? (withSign negative (whole ++ '.' :: fraction)) = some (.double d) := by
  obtain ⟨stop, hread⟩ := h.readNumeral hd (if negative then 1 else 0)
  obtain ⟨first, tail, hchars, hdigit⟩ := h.exists_eq_cons
  rw [hchars] at hread ⊢
  rw [wholeNumber?_withSign hdigit, hread]
  rfl

/-! ## In YAML -/

theorem unsigned (h : Fraction whole fraction significand) (negative : Bool) :
    Reading.unsigned (withSign negative (whole ++ '.' :: fraction)) =
      (negative, whole ++ '.' :: fraction) := by
  obtain ⟨first, tail, hchars, hdigit⟩ := h.exists_eq_cons
  rw [hchars, unsigned_withSign hdigit]

/-- The point makes it no integer. -/
theorem magnitude? (h : Fraction whole fraction significand) :
    Reading.magnitude? (whole ++ '.' :: fraction) = none := by
  have hpoint : ∀ base, Text.digits? base (whole ++ '.' :: fraction) = none := by
    intro base
    have hmem : '.' ∈ whole ++ '.' :: fraction := List.mem_append_right whole List.mem_cons_self
    unfold Text.digits?
    split
    · rfl
    · exact readDigits?_eq_none (by decide) hmem
  rcases h.whole_cases with rfl | ⟨first, tail, rfl, -, hzero⟩
  · rfl
  · have hten := hpoint 10
    rw [List.cons_append] at hten ⊢
    unfold Reading.magnitude?
    split
    case h_1 heq | h_2 heq | h_3 heq | h_4 heq => exact absurd (List.cons.inj heq).1 hzero
    case h_5 => rfl
    case h_6 => exact hten

theorem number? (h : Fraction whole fraction significand) (negative : Bool) :
    Reading.number? (String.ofList (withSign negative (whole ++ '.' :: fraction))) = none := by
  simp only [Reading.number?, Reading.integer?, String.toList_ofList, h.unsigned, h.magnitude?,
    Option.filter_none]

theorem isPadded (h : Fraction whole fraction significand) (negative : Bool) :
    Reading.isPadded (String.ofList (withSign negative (whole ++ '.' :: fraction))) = false := by
  simp only [Reading.isPadded, String.toList_ofList, h.unsigned]
  rcases h.whole_cases with rfl | ⟨first, tail, rfl, -, hzero⟩
  · rfl
  · rw [List.cons_append]
    split
    next heq => exact absurd (List.cons.inj heq).1 hzero
    next => rfl

/-- YAML rounds the decimal, of which leading zeros are left out. -/
theorem finite? (h : Fraction whole fraction significand) (negative : Bool) :
    Reading.finite? negative whole fraction 0 =
      Binary64.ofDecimal negative significand (-(fraction.length : Int)) := by
  have hshort := h.short
  have hvalue := readDigits?_dropWhile (whole ++ fraction)
  rw [h.readDigits?] at hvalue
  have hhead : ∀ c ∈ ((whole ++ fraction).dropWhile (· = '0')).head?, c ≠ '0' := by
    intro c hc
    have hnot := List.head?_dropWhile_not (· = '0') (whole ++ fraction)
    rw [Option.mem_def.mp hc] at hnot
    simpa using hnot
  simp only [Reading.finite?]
  cases hdigits : (whole ++ fraction).dropWhile (· = '0') with
  | nil =>
      rw [hdigits] at hvalue
      obtain rfl : 0 = significand := Option.some.inj hvalue
      simp only [List.isEmpty_nil, true_or, if_true, Binary64.ofDecimal, Nat.zero_mul,
        Binary64.ofRatio_zero, ite_self]
  | cons c digits =>
      rw [hdigits] at hvalue hhead
      -- The first digit is near the unit, so neither shortcut for numbers far from it is taken.
      have hlength := length_le_of_readDigits? (hhead c rfl) hvalue h.fits
      have hsmall : ¬ ((c :: digits).isEmpty = true ∨
          ((c :: digits).length : Int) + (0 - (fraction.length : Int)) < -350) := by
        simp only [List.isEmpty_cons, Bool.false_eq_true, false_or]
        omega
      have hlarge : ¬ 310 < ((c :: digits).length : Int) + (0 - (fraction.length : Int)) := by
        omega
      have hten : Text.digits? 10 (c :: digits) = some significand := hvalue
      rw [if_neg hsmall, if_neg hlarge, hten, Int.zero_sub]

theorem decimal? (h : Fraction whole fraction significand) (negative : Bool) :
    Reading.decimal? (withSign negative (whole ++ '.' :: fraction)) =
      Binary64.ofDecimal negative significand (-(fraction.length : Int)) := by
  obtain ⟨htake, hdrop⟩ := h.takeWhile_whole
  obtain ⟨htake', hdrop'⟩ := h.takeWhile_fraction
  obtain ⟨first, tail, hchars, hdigit⟩ := h.exists_eq_cons
  have hne : whole.isEmpty = false := by simp [h.whole_ne]
  rw [hchars] at htake hdrop
  rw [hchars, decimal?_withSign hdigit]
  simp only [unsignedDecimal?, htake, hdrop, htake', hdrop', hne, Bool.false_and,
    Bool.false_eq_true, if_false, Reading.exponent?, h.finite?]

theorem isNumeric (h : Fraction whole fraction significand) (negative : Bool) :
    ∀ c ∈ withSign negative (whole ++ '.' :: fraction), Notation.isNumeric c = true := by
  obtain ⟨-, -, hwhole, -, hfraction⟩ := h.absorb
  have hchars : ∀ c ∈ whole ++ '.' :: fraction, Notation.isNumeric c = true := by
    refine List.forall_mem_append.mpr
      ⟨fun c hc => ?_, List.forall_mem_cons.mpr ⟨rfl, fun c hc => ?_⟩⟩
    · simp [Notation.isNumeric, hwhole c hc]
    · simp [Notation.isNumeric, hfraction c hc]
  cases negative with
  | true => exact List.forall_mem_cons.mpr ⟨rfl, hchars⟩
  | false => exact hchars

theorem double? (h : Fraction whole fraction significand)
    (hd : Binary64.ofDecimal negative significand (-(fraction.length : Int)) = some d) :
    Reading.double? (String.ofList (withSign negative (whole ++ '.' :: fraction))) =
      some (.double d) := by
  have hother := ofList_ne_of_mem_otherWords (h.isNumeric negative)
  simp only [otherWords, List.forall_mem_cons] at hother
  have hunpositive : Reading.unpositive? (withSign negative (whole ++ '.' :: fraction)) =
      some (withSign negative (whole ++ '.' :: fraction)) := by
    have hplus : ∀ rest, withSign negative (whole ++ '.' :: fraction) ≠ '+' :: rest := by
      intro rest heq
      have hnumeric := h.isNumeric negative '+' (heq ▸ List.mem_cons_self)
      exact absurd hnumeric (by decide)
    unfold Reading.unpositive?
    split
    next rest heq => exact absurd heq (hplus _)
    next rest _ heq => exact absurd heq (hplus _)
    next => rfl
  simp only [Reading.double?, String.toList_ofList, hunpositive, hother, or_false, if_false,
    h.decimal?, hd, Option.map_some]

/-- A short decimal is the same double in both notations. -/
theorem numeral (h : Fraction whole fraction significand)
    (hd : Binary64.ofDecimal negative significand (-(fraction.length : Int)) = some d) :
    Numeral (withSign negative (whole ++ '.' :: fraction)) (.double d) := by
  have hne : withSign negative (whole ++ '.' :: fraction) ≠ [] := by
    cases negative <;> simp [withSign]
  have hread : Reading.ofPlain (String.ofList (withSign negative (whole ++ '.' :: fraction))) =
      .double d :=
    ofPlain_eq_double (h.isNumeric negative) hne (h.number? negative) (h.isPadded negative)
      (h.double? hd)
  refine ⟨fun c hc => ?_, h.wholeNumber? hd, by rw [hread]; rfl⟩
  have hnumeric := h.isNumeric negative c hc
  simp only [Notation.isNumeric, Bool.or_eq_true] at hnumeric
  simp only [Json.isNumeralChar, Bool.or_eq_true]
  tauto

/-- Every short decimal is a double in both notations. -/
theorem exists_numeral (h : Fraction whole fraction significand) (negative : Bool) :
    ∃ d, Binary64.ofDecimal negative significand (-(fraction.length : Int)) = some d ∧
      Numeral (withSign negative (whole ++ '.' :: fraction)) (.double d) := by
  obtain ⟨d, hd⟩ := h.exists_double negative
  exact ⟨d, hd, h.numeral hd⟩

end Fraction

end ResourceTemplate.Notation

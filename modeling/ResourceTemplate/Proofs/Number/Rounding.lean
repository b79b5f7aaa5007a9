import Mathlib.Tactic.NormNum
import Mathlib.Tactic.Positivity
import Mathlib.Tactic.Ring
import ResourceTemplate.Json.Numeral

/-!
# Doubles of short decimals

A natural number below `2 ^ 53` is a double itself, and so is a power of ten with at most fifteen
zeros.  The quotient of two such numbers is rounded once, whether the numbers are made doubles
before or not.  So for a decimal with few digits it makes no difference how its double is composed.
-/

namespace ResourceTemplate

namespace Binary64

/-! ## Fractions in other terms -/

theorem roundHalfEven_mul_right (num den : Nat) {c : Nat} (hc : 0 < c) :
    roundHalfEven (num * c) (den * c) = roundHalfEven num den := by
  have hless : ∀ a b : Nat, a * c < b * c ↔ a < b := fun a b => Nat.mul_lt_mul_right hc
  simp only [roundHalfEven, Nat.mul_div_mul_right num den hc, Nat.mul_mod_mul_right,
    ← Nat.mul_assoc 2, hless]

theorem descale_mul_right (num den c : Nat) (exponent : Int) :
    descale (num * c) (den * c) exponent =
      ((descale num den exponent).1 * c, (descale num den exponent).2 * c) := by
  unfold descale
  split
  · rw [Nat.mul_right_comm]
  · rw [Nat.mul_right_comm]

theorem descale_neg (num den t : Nat) : descale num den (-(t : Int)) = (num * 2 ^ t, den) := by
  unfold descale
  split
  · obtain rfl : t = 0 := by omega
    simp
  · simp

theorem log2_mul_two_pow {n : Nat} (hn : n ≠ 0) (t : Nat) : (n * 2 ^ t).log2 = n.log2 + t := by
  have hne : n * 2 ^ t ≠ 0 := by positivity
  refine (Nat.log2_eq_iff hne).mpr ⟨?_, ?_⟩
  · rw [pow_add]
    exact Nat.mul_le_mul_right _ (Nat.log2_self_le hn)
  · rw [Nat.add_right_comm, pow_add]
    exact Nat.mul_lt_mul_of_pos_right Nat.lt_log2_self (by positivity)

/-- A fraction that is extended by a power of two has the same double. -/
theorem ofRatio_mul_two_pow (negative : Bool) (num : Nat) {den : Nat} (hden : den ≠ 0) (t : Nat) :
    ofRatio negative (num * 2 ^ t) (den * 2 ^ t) = ofRatio negative num den := by
  have hc : 0 < 2 ^ t := by positivity
  by_cases hnum : num = 0
  · subst hnum
    rw [Nat.zero_mul, ofRatio_zero, ofRatio_zero]
  -- Both logarithms grow by the same, so the first guess of the exponent stays.
  have hexponent : exponentFor (num * 2 ^ t) (den * 2 ^ t) = exponentFor num den := by
    have hguess : ((num.log2 + t : Nat) : Int) - ((den.log2 + t : Nat) : Int) - 53 =
        (num.log2 : Int) - (den.log2 : Int) - 53 := by
      omega
    simp only [exponentFor, log2_mul_two_pow hnum, log2_mul_two_pow hden, hguess,
      descale_mul_right, Nat.mul_div_mul_right _ _ hc]
  have hne : num * 2 ^ t ≠ 0 := by positivity
  simp only [ofRatio, hne, hnum, if_false, hexponent, descale_mul_right,
    roundHalfEven_mul_right _ _ hc]

/-! ## Numbers that are doubles -/

/-- A positive number below `2 ^ 53` is a double. -/
theorem exists_ofRatio_one (negative : Bool) {n : Nat} (hpos : 0 < n) (hn : n < 2 ^ 53) :
    ∃ shift : Nat, ofRatio negative n 1 = some ⟨negative, n * 2 ^ shift, -(shift : Int)⟩ := by
  have hne : n ≠ 0 := by omega
  have hlog : n.log2 < 53 := (Nat.log2_lt hne).mpr hn
  obtain ⟨shift, hshift⟩ : ∃ shift, n.log2 + shift = 52 := ⟨52 - n.log2, by omega⟩
  have hlow : 2 ^ 52 ≤ n * 2 ^ shift := by
    rw [← hshift, pow_add]
    exact Nat.mul_le_mul_right _ (Nat.log2_self_le hne)
  have hhigh : n * 2 ^ shift < 2 ^ 53 := by
    have hbound : n * 2 ^ shift < 2 ^ (n.log2 + 1) * 2 ^ shift :=
      Nat.mul_lt_mul_of_pos_right Nat.lt_log2_self (by positivity)
    rwa [← pow_add, Nat.add_right_comm, hshift] at hbound
  have hexponent : exponentFor n 1 = -(shift : Int) := by
    have hguess : (n.log2 : Int) - ((1 : Nat).log2 : Int) - 53 = -((shift + 1 : Nat) : Int) := by
      have hone : (1 : Nat).log2 = 0 := by decide
      rw [hone]
      omega
    have hlarge : ¬ n * 2 ^ (shift + 1) < Nat.pow 2 53 := by
      rw [pow_succ, ← Nat.mul_assoc]
      have hdouble : Nat.pow 2 53 = 2 ^ 52 * 2 := rfl
      omega
    simp only [exponentFor, hguess, descale_neg, Nat.div_one, if_neg hlarge, minExponent]
    omega
  have hmantissa : roundHalfEven (n * 2 ^ shift) 1 = n * 2 ^ shift := by
    have hself := roundHalfEven_mul_self (n * 2 ^ shift) Nat.one_pos
    rwa [Nat.mul_one] at hself
  have hcarried : ¬ n * 2 ^ shift = Nat.pow 2 53 := Nat.ne_of_lt hhigh
  have hrange : ¬ maxExponent < -(shift : Int) := by
    simp only [maxExponent]
    omega
  refine ⟨shift, ?_⟩
  simp only [ofRatio, hne, if_false, hexponent, descale_neg, hmantissa, hcarried, hrange]

/-- The double of a number is that number over a power of two. -/
theorem magnitude_of_shift (negative : Bool) (n shift : Nat) :
    magnitude ⟨negative, n * 2 ^ shift, -(shift : Int)⟩ = (n * 2 ^ shift, 2 ^ shift) := by
  unfold magnitude
  split
  next hzero =>
    obtain rfl : shift = 0 := by
      simp only at hzero
      omega
    simp
  next => simp

/-- The quotient of two numbers that are doubles is rounded once. -/
theorem div_of_shift (negative : Bool) (n i : Nat) {m : Nat} (hm : m ≠ 0) (j : Nat) :
    div ⟨negative, n * 2 ^ i, -(i : Int)⟩ ⟨false, m * 2 ^ j, -(j : Int)⟩ =
      ofRatio negative n m := by
  have hsum : ∀ k : Nat, k * 2 ^ i * 2 ^ j = k * 2 ^ (i + j) := fun k => by
    rw [Nat.mul_assoc, ← pow_add]
  have hden : 2 ^ i * (m * 2 ^ j) = m * 2 ^ (i + j) := by
    rw [pow_add]
    ring
  rw [div, magnitude_of_shift, magnitude_of_shift, hden, hsum, ofRatio_mul_two_pow negative n hm]

/-- A number below `2 ^ 53` divided by any other is not beyond the greatest double. -/
theorem exists_ofRatio (negative : Bool) {n : Nat} (hn : n < 2 ^ 53) (den : Nat) :
    ∃ d, ofRatio negative n den = some d := by
  by_cases hne : n = 0
  · exact ⟨zero negative, by rw [hne, ofRatio_zero]⟩
  have hlog : n.log2 < 53 := (Nat.log2_lt hne).mpr hn
  have hexponent : exponentFor n den ≤ 0 := by
    simp only [exponentFor, minExponent]
    split <;> omega
  have hrange : ∀ carried : Nat × Int, carried.2 ≤ 1 → ¬ maxExponent < carried.2 := by
    intro carried hle
    simp only [maxExponent]
    omega
  simp only [ofRatio, hne, if_false]
  rw [if_neg (hrange _ ?_)]
  · exact ⟨_, rfl⟩
  · split
    · simp only
      omega
    · simp only
      omega

end Binary64

/-! ## Decimals -/

namespace Json

theorem divideByPower_of_le (tries : Nat) {d : Binary64} (hd : d.mantissa ≠ 0) {power : Nat}
    (h : power ≤ powerStep) :
    divideByPower (tries + 1) d power = (Binary64.ofRatio false (10 ^ power) 1).bind d.div := by
  -- The equation of the function cannot be used, as the power of the step is too large to be met.
  show (if d.mantissa = 0 then some d else if power ≤ powerStep then _ else _) = _
  rw [if_neg hd, if_pos h, Nat.pow_eq]

theorem divideByPower_zero (tries : Nat) (negative : Bool) (power : Nat) :
    divideByPower (tries + 1) (.zero negative) power = some (.zero negative) := by
  have hzero : (Binary64.zero negative).mantissa = 0 := rfl
  show (if (Binary64.zero negative).mantissa = 0 then some _ else _) = _
  rw [if_pos hzero]

/-- A decimal with a significand below `2 ^ 53` and at most fifteen digits behind the point has the
same double whether it is composed of doubles or rounded at once. -/
theorem composeDouble_eq_ofDecimal (negative : Bool) {significand power : Nat}
    (hfits : significand < 2 ^ 53) (hpos : 0 < power) (hshort : power ≤ 15) :
    composeDouble negative significand (-(power : Int)) =
      Binary64.ofDecimal negative significand (-(power : Int)) := by
  have hnegative : ¬ 0 ≤ -(power : Int) := by omega
  have hbelow : -(power : Int) < 0 := by omega
  have hstep : power ≤ powerStep := Nat.le_trans hshort (by decide)
  have hdecimal : Binary64.ofDecimal negative significand (-(power : Int)) =
      Binary64.ofRatio negative significand (10 ^ power) := by
    rw [Binary64.ofDecimal, if_neg hnegative, Int.neg_neg, Int.toNat_natCast, Nat.pow_eq]
  rw [hdecimal]
  by_cases hzero : significand = 0
  · subst hzero
    simp only [composeDouble, Binary64.ofRatio_zero, hbelow, if_true, divideByPower_zero]
  -- Both sides of the quotient are exact, so only the quotient itself is rounded.
  have hten : 10 ^ power < 2 ^ 53 :=
    lt_of_le_of_lt (Nat.pow_le_pow_right (by norm_num) hshort) (by norm_num)
  obtain ⟨i, hd⟩ := Binary64.exists_ofRatio_one negative (Nat.pos_of_ne_zero hzero) hfits
  obtain ⟨j, hp⟩ := Binary64.exists_ofRatio_one false (by positivity) hten
  have hmantissa : significand * 2 ^ i ≠ 0 := by positivity
  simp only [composeDouble, hd, hbelow, if_true, Int.neg_neg, Int.toNat_natCast]
  rw [divideByPower_of_le 3 hmantissa hstep, hp, Option.bind_some]
  exact Binary64.div_of_shift negative significand i (by positivity) j

end Json

end ResourceTemplate

import ResourceTemplate.Json.Numeral

/-!
# Numerals in a text

A numeral that is read from a text of its own is also read in front of other characters, and is the
same number, as long as what follows does not go on with it.
-/

namespace ResourceTemplate.Json

/-- Whether a character may stand in a numeral. -/
def isNumeralChar (c : Char) : Bool :=
  c.isDigit || c = '.' || c = 'e' || c = 'E' || c = '+' || c = '-'

/-- A number behind which nothing is left. -/
def atEnd? : Except Failure (Number × Cursor) → Option Number
  | .ok (found, ⟨_, []⟩) => some found
  | _ => none

/-- The number that characters are, all of them. -/
def wholeNumber? : List Char → Option Number
  | '-' :: digits => atEnd? (readNumeral true ⟨1, digits⟩)
  | digits => atEnd? (readNumeral false ⟨0, digits⟩)

theorem atEnd?_eq_some {read : Except Failure (Number × Cursor)} {found : Number}
    (h : atEnd? read = some found) : ∃ stop, read = .ok (found, ⟨stop, []⟩) := by
  unfold atEnd? at h
  split at h
  next stop =>
    obtain rfl := Option.some.inj h
    exact ⟨stop, rfl⟩
  next => simp at h

/-- What follows does not go on with a numeral. -/
def EndsNumeral (rest : List Char) : Prop := ∀ c ∈ rest.head?, isNumeralChar c = false

theorem isDigit_eq_false {c : Char} (h : isNumeralChar c = false) : c.isDigit = false := by
  simp only [isNumeralChar, Bool.or_eq_false_iff] at h
  exact h.1.1.1.1.1

theorem takeWhile_isDigit_append (chars : List Char) {rest : List Char} (h : EndsNumeral rest) :
    (chars ++ rest).takeWhile Char.isDigit = chars.takeWhile Char.isDigit := by
  induction chars with
  | nil =>
      cases rest with
      | nil => rfl
      | cons c rest =>
          have hdigit := isDigit_eq_false (h c rfl)
          simp [hdigit]
  | cons c chars ih =>
      simp only [List.cons_append, List.takeWhile_cons, ih]

theorem dropWhile_isDigit_append (chars : List Char) {rest : List Char} (h : EndsNumeral rest) :
    (chars ++ rest).dropWhile Char.isDigit = chars.dropWhile Char.isDigit ++ rest := by
  induction chars with
  | nil =>
      cases rest with
      | nil => rfl
      | cons c rest =>
          have hdigit := isDigit_eq_false (h c rfl)
          simp [hdigit]
  | cons c chars ih =>
      simp only [List.cons_append, List.dropWhile_cons, ih]
      split <;> rfl

section Local

variable {negative : Bool} {significand : Nat} {power : Int} {chars rest : List Char}
  {offset offset' : Nat} {number : Number}

/-- A double that is composed where its numeral ends is the same wherever that is. -/
theorem finishDouble_eq_ok {c c' : Cursor}
    (h : finishDouble negative significand power c = .ok (number, c')) :
    c' = c ∧ ∀ place, finishDouble negative significand power place = .ok (number, place) := by
  simp only [finishDouble] at h ⊢
  cases hdouble : composeDouble negative significand power with
  | none => simp [hdouble] at h
  | some d =>
      simp only [hdouble, Except.ok.injEq, Prod.mk.injEq] at h
      obtain ⟨rfl, rfl⟩ := h
      exact ⟨rfl, fun place => rfl⟩

/-- Read the digits of an exponent, of which the sign has been read. -/
def readPower (negative : Bool) (significand : Nat) (power : Int) (below : Bool) (body : Cursor) :
    Except Failure (Number × Cursor) :=
  match body.rest with
  | [] => .error ⟨.endInValue, body.offset⟩
  | d :: _ =>
      if !d.isDigit then .error ⟨.invalidNumber, body.offset + 1⟩
      else
        match readExponentDigits 0 0 (body.rest.takeWhile Char.isDigit) with
        | .inl exponent =>
            finishDouble negative significand
              (if below then power - exponent else power + exponent) (body.skipWhile Char.isDigit)
        | .inr taken =>
            if significand ≠ 0 && !below then .error ⟨.numberOutOfRange, body.offset + taken⟩
            else .ok (.double (Binary64.zero negative), body.skipWhile Char.isDigit)

/-- The sign of an exponent and the place behind it. -/
def exponentSign (c : Cursor) : Bool × Cursor :=
  match c.rest with
  | '+' :: rest => (false, ⟨c.offset + 1, rest⟩)
  | '-' :: rest => (true, ⟨c.offset + 1, rest⟩)
  | _ => (false, c)

theorem readExponent_eq (c : Cursor) : readExponent negative significand power c =
    readPower negative significand power (exponentSign c).1 (exponentSign c).2 := rfl

theorem exponentSign_append (c : Char) (chars : List Char) :
    ∃ below width behind, ∀ start rest,
      exponentSign ⟨start, c :: chars ++ rest⟩ = (below, ⟨start + width, behind ++ rest⟩) := by
  by_cases hplus : c = '+'
  · subst hplus
    exact ⟨false, 1, chars, fun start rest => rfl⟩
  by_cases hminus : c = '-'
  · subst hminus
    exact ⟨true, 1, chars, fun start rest => rfl⟩
  refine ⟨false, 0, c :: chars, fun start rest => ?_⟩
  unfold exponentSign
  split
  next heq => exact absurd (List.cons.inj heq).1 hplus
  next heq => exact absurd (List.cons.inj heq).1 hminus
  next => rfl

theorem readPower_append {below : Bool} (hrest : EndsNumeral rest)
    (h : readPower negative significand power below ⟨offset, chars⟩ =
      .ok (number, ⟨offset', []⟩)) (start : Nat) :
    ∃ stop, readPower negative significand power below ⟨start, chars ++ rest⟩ =
      .ok (number, ⟨stop, rest⟩) := by
  cases chars with
  | nil => simp [readPower] at h
  | cons d digits =>
      simp only [readPower, List.cons_append] at h ⊢
      cases hdigit : d.isDigit with
      | false => simp [hdigit] at h
      | true =>
          simp only [hdigit, Bool.not_true, Bool.false_eq_true, if_false] at h ⊢
          have htake := takeWhile_isDigit_append (d :: digits) hrest
          have hdrop := dropWhile_isDigit_append (d :: digits) hrest
          simp only [List.cons_append] at htake hdrop
          rw [htake]
          simp only [Cursor.skipWhile, htake, hdrop] at h ⊢
          cases hvalue : readExponentDigits 0 0 ((d :: digits).takeWhile Char.isDigit) with
          | inl exponent =>
              simp only [hvalue] at h
              obtain ⟨hend, hfinish⟩ := finishDouble_eq_ok h
              obtain ⟨-, hend⟩ := Cursor.mk.inj hend
              exact ⟨_, by simp only [hfinish, ← hend]; rfl⟩
          | inr taken =>
              simp only [hvalue] at h
              split at h
              next => exact absurd h (by simp)
              next hzero =>
                simp only [if_neg hzero]
                simp only [Except.ok.injEq, Prod.mk.injEq, Cursor.mk.injEq] at h
                obtain ⟨rfl, -, hend⟩ := h
                exact ⟨_, by rw [hend]; rfl⟩

theorem readExponent_append (hrest : EndsNumeral rest)
    (h : readExponent negative significand power ⟨offset, chars⟩ = .ok (number, ⟨offset', []⟩))
    (start : Nat) :
    ∃ stop, readExponent negative significand power ⟨start, chars ++ rest⟩ =
      .ok (number, ⟨stop, rest⟩) := by
  cases chars with
  | nil => simp [readExponent] at h
  | cons c chars =>
      obtain ⟨below, width, behind, hsign⟩ := exponentSign_append c chars
      have hwhole : exponentSign ⟨offset, c :: chars⟩ = (below, ⟨offset + width, behind⟩) := by
        simpa only [List.append_nil] using hsign offset []
      rw [readExponent_eq, hwhole] at h
      rw [readExponent_eq, hsign]
      exact readPower_append hrest h (start + width)

theorem readTail_of_endsNumeral (hrest : EndsNumeral rest) (start : Nat) :
    readTail negative significand power ⟨start, rest⟩ =
      finishDouble negative significand power ⟨start, rest⟩ := by
  unfold readTail
  split
  next behind heq =>
    obtain rfl : rest = 'e' :: behind := heq
    exact absurd (hrest 'e' rfl) (by decide)
  next behind heq =>
    obtain rfl : rest = 'E' :: behind := heq
    exact absurd (hrest 'E' rfl) (by decide)
  next => rfl

theorem readTail_append (hrest : EndsNumeral rest)
    (h : readTail negative significand power ⟨offset, chars⟩ = .ok (number, ⟨offset', []⟩))
    (start : Nat) :
    ∃ stop, readTail negative significand power ⟨start, chars ++ rest⟩ =
      .ok (number, ⟨stop, rest⟩) := by
  unfold readTail at h
  split at h
  next behind heq =>
    obtain rfl : chars = 'e' :: behind := heq
    exact readExponent_append hrest h (start + 1)
  next behind heq =>
    obtain rfl : chars = 'E' :: behind := heq
    exact readExponent_append hrest h (start + 1)
  next =>
    obtain ⟨hend, hfinish⟩ := finishDouble_eq_ok h
    obtain ⟨-, rfl⟩ := Cursor.mk.inj hend
    refine ⟨start, ?_⟩
    rw [List.nil_append, readTail_of_endsNumeral hrest, hfinish]

theorem readFraction_append (hrest : EndsNumeral rest)
    (h : readFraction negative significand power ⟨offset, chars⟩ = .ok (number, ⟨offset', []⟩))
    (start : Nat) :
    ∃ stop, readFraction negative significand power ⟨start, chars ++ rest⟩ =
      .ok (number, ⟨stop, rest⟩) := by
  cases chars with
  | nil => simp [readFraction] at h
  | cons d digits =>
      have htake := takeWhile_isDigit_append (d :: digits) hrest
      have hdrop := dropWhile_isDigit_append (d :: digits) hrest
      simp only [readFraction, Cursor.skipWhile, htake, hdrop] at h ⊢
      split at h
      next => exact absurd h (by simp)
      next hdigits =>
        rw [if_neg hdigits]
        exact readTail_append hrest h _

/-- Read what follows the whole part of a numeral. -/
def readBehindWhole (negative padded : Bool) (absorbed : Nat × List Char) (next : Cursor) :
    Except Failure (Number × Cursor) :=
  match next.rest with
  | '.' :: behind =>
      readFraction negative absorbed.1 absorbed.2.length ⟨next.offset + 1, behind⟩
  | 'e' :: behind =>
      readExponent negative absorbed.1 absorbed.2.length ⟨next.offset + 1, behind⟩
  | 'E' :: behind =>
      readExponent negative absorbed.1 absorbed.2.length ⟨next.offset + 1, behind⟩
  | following =>
      if padded && (following.head?.map Char.isDigit).getD false then
        .error ⟨.invalidNumber, next.peek⟩
      else if absorbed.2.isEmpty then .ok (integerNumber negative absorbed.1, next)
      else finishDouble negative absorbed.1 absorbed.2.length next

theorem readNumeral_zero (start : Nat) (chars : List Char) :
    readNumeral negative ⟨start, '0' :: chars⟩ =
      readBehindWhole negative true (absorb 0 ['0']) ⟨start + 1, chars⟩ := rfl

theorem readNumeral_of_ne_zero {first : Char} (hdigit : first.isDigit = true) (hzero : first ≠ '0')
    (start : Nat) (chars : List Char) :
    readNumeral negative ⟨start, first :: chars⟩ =
      readBehindWhole negative false (absorb 0 ((first :: chars).takeWhile Char.isDigit))
        (Cursor.skipWhile Char.isDigit ⟨start, first :: chars⟩) := by
  simp only [readNumeral, hdigit, hzero, if_false, Bool.not_true, Bool.false_eq_true]
  rfl

theorem readBehindWhole_of_endsNumeral {padded : Bool} {absorbed : Nat × List Char}
    (hrest : EndsNumeral rest) (start : Nat) :
    readBehindWhole negative padded absorbed ⟨start, rest⟩ =
      if absorbed.2.isEmpty then .ok (integerNumber negative absorbed.1, ⟨start, rest⟩)
      else finishDouble negative absorbed.1 absorbed.2.length ⟨start, rest⟩ := by
  have hdigit : (rest.head?.map Char.isDigit).getD false = false := by
    cases rest with
    | nil => rfl
    | cons c rest => exact isDigit_eq_false (hrest c rfl)
  unfold readBehindWhole
  split
  next behind heq =>
    obtain rfl : rest = '.' :: behind := heq
    exact absurd (hrest '.' rfl) (by decide)
  next behind heq =>
    obtain rfl : rest = 'e' :: behind := heq
    exact absurd (hrest 'e' rfl) (by decide)
  next behind heq =>
    obtain rfl : rest = 'E' :: behind := heq
    exact absurd (hrest 'E' rfl) (by decide)
  next => simp only [hdigit, Bool.and_false, Bool.false_eq_true, if_false]

theorem readBehindWhole_append {padded : Bool} {absorbed : Nat × List Char}
    (hrest : EndsNumeral rest)
    (h : readBehindWhole negative padded absorbed ⟨offset, chars⟩ = .ok (number, ⟨offset', []⟩))
    (start : Nat) :
    ∃ stop, readBehindWhole negative padded absorbed ⟨start, chars ++ rest⟩ =
      .ok (number, ⟨stop, rest⟩) := by
  unfold readBehindWhole at h
  split at h
  next behind heq =>
    obtain rfl : chars = '.' :: behind := heq
    exact readFraction_append hrest h (start + 1)
  next behind heq =>
    obtain rfl : chars = 'e' :: behind := heq
    exact readExponent_append hrest h (start + 1)
  next behind heq =>
    obtain rfl : chars = 'E' :: behind := heq
    exact readExponent_append hrest h (start + 1)
  next =>
    -- Nothing more belongs to the numeral, so nothing was left of it.
    obtain rfl : chars = [] := by
      split at h
      · exact absurd h (by simp)
      · split at h
        · exact (Cursor.mk.inj (Prod.mk.inj (Except.ok.inj h)).2).2
        · exact (Cursor.mk.inj (finishDouble_eq_ok h).1).2.symm
    rw [List.nil_append, readBehindWhole_of_endsNumeral hrest]
    simp only [List.head?_nil, Option.map_none, Option.getD_none, Bool.and_false,
      Bool.false_eq_true, if_false] at h
    split at h
    next hfits =>
      rw [if_pos hfits]
      obtain rfl := (Prod.mk.inj (Except.ok.inj h)).1
      exact ⟨start, rfl⟩
    next hwide =>
      rw [if_neg hwide]
      exact ⟨start, (finishDouble_eq_ok h).2 _⟩

theorem readNumeral_append (hrest : EndsNumeral rest)
    (h : readNumeral negative ⟨offset, chars⟩ = .ok (number, ⟨offset', []⟩)) (start : Nat) :
    ∃ stop, readNumeral negative ⟨start, chars ++ rest⟩ = .ok (number, ⟨stop, rest⟩) := by
  cases chars with
  | nil => simp [readNumeral] at h
  | cons first chars =>
      cases hdigit : first.isDigit with
      | false => simp [readNumeral, hdigit] at h
      | true =>
          by_cases hzero : first = '0'
          · subst hzero
            rw [readNumeral_zero] at h
            rw [List.cons_append, readNumeral_zero]
            exact readBehindWhole_append hrest h (start + 1)
          · rw [readNumeral_of_ne_zero hdigit hzero] at h
            rw [List.cons_append, readNumeral_of_ne_zero hdigit hzero, ← List.cons_append,
              takeWhile_isDigit_append _ hrest]
            simp only [Cursor.skipWhile, dropWhile_isDigit_append _ hrest]
            exact readBehindWhole_append hrest h _

/-- Behind its sign a numeral begins with a digit. -/
theorem exists_digit_of_readNumeral {next : Cursor}
    (h : readNumeral negative ⟨offset, chars⟩ = .ok (number, next)) :
    ∃ first tail, chars = first :: tail ∧ first.isDigit = true := by
  cases chars with
  | nil => simp [readNumeral] at h
  | cons first tail =>
      refine ⟨first, tail, rfl, ?_⟩
      cases hdigit : first.isDigit with
      | false => simp [readNumeral, hdigit] at h
      | true => rfl

end Local

/-- Characters that are a number have a minus in front or have not. -/
theorem wholeNumber?_eq_some {chars : List Char} {found : Number}
    (h : wholeNumber? chars = some found) :
    (∃ digits stop, chars = '-' :: digits ∧ readNumeral true ⟨1, digits⟩ = .ok (found, ⟨stop, []⟩)) ∨
      ∃ stop, readNumeral false ⟨0, chars⟩ = .ok (found, ⟨stop, []⟩) := by
  unfold wholeNumber? at h
  split at h
  next digits =>
    obtain ⟨stop, hread⟩ := atEnd?_eq_some h
    exact .inl ⟨digits, stop, rfl, hread⟩
  next => exact .inr (atEnd?_eq_some h)

end ResourceTemplate.Json

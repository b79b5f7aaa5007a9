import ResourceTemplate.Proofs.Notation.Written

/-!
# Scalars and gaps of the shared notation in YAML
-/

namespace ResourceTemplate.Yaml

open Notation

/-! ## Places -/

theorem Mark.afterAll_of_isBreak_eq_false {chars : List Char}
    (h : ∀ c ∈ chars, isBreak c = false) (m : Mark) :
    m.afterAll chars = ⟨m.index + chars.length, m.line, m.column + chars.length⟩ := by
  induction chars generalizing m with
  | nil => rfl
  | cons c chars ih =>
      have hc := h c List.mem_cons_self
      have hafter : m.after c = ⟨m.index + 1, m.line, m.column + 1⟩ := by
        simp [Mark.after, hc]
      have hrest := ih (fun d hd => h d (List.mem_cons_of_mem c hd)) (m.after c)
      simp only [Mark.afterAll, List.foldl_cons, List.length_cons] at hrest ⊢
      rw [hrest, hafter]
      simp only [Nat.add_assoc, Nat.add_comm 1]

/-! ## Gaps -/

/-- What a token begins with: neither spacing nor the start of a comment. -/
def BeginsToken (rest : List Char) : Prop :=
  ∀ c ∈ rest.head?, isSpacing c = false ∧ c ≠ '#' ∧ c ≠ byteOrderMark

theorem beginsToken_cons {c : Char} (h : isSpacing c = false ∧ c ≠ '#' ∧ c ≠ byteOrderMark)
    (rest : List Char) : BeginsToken (c :: rest) := by
  intro d hd
  obtain rfl := Option.some.inj hd
  exact h

theorem spacing_begun {rest : List Char} (h : BeginsToken rest) (inFlow keyAllowed : Bool)
    (m : Mark) : Scanner.spacing inFlow keyAllowed false m rest = (⟨m, rest⟩, keyAllowed) := by
  cases rest with
  | nil => rfl
  | cons c rest =>
      obtain ⟨hspacing, hcomment, hmark⟩ := h c rfl
      simp only [isSpacing, isBlank, Bool.or_eq_false_iff, decide_eq_false_iff_not] at hspacing
      obtain ⟨⟨hspace, htab⟩, hbreak⟩ := hspacing
      simp [Scanner.spacing, hbreak, hspace, htab, hcomment, hmark]

/-- In front of a token a gap is passed. -/
theorem spacing_gap {depth : Nat} {gap rest : List Char} (hgap : IsGap depth gap)
    (hrest : BeginsToken rest) {inFlow : Bool} (hflow : inFlow = false → depth = 0)
    (keyAllowed : Bool) (m : Mark) :
    ∃ allowed, Scanner.spacing inFlow keyAllowed false m (gap ++ rest) =
      (⟨m.afterAll gap, rest⟩, allowed) ∧ (inFlow = true → allowed = keyAllowed) := by
  induction gap generalizing keyAllowed m with
  | nil => exact ⟨keyAllowed, spacing_begun hrest inFlow keyAllowed m, fun _ => rfl⟩
  | cons c gap ih =>
      obtain ⟨hblank, htab⟩ := hgap c List.mem_cons_self
      have hgap' : IsGap depth gap := fun d hd => hgap d (List.mem_cons_of_mem c hd)
      obtain ⟨allowed, hspacing, hallowed⟩ := ih hgap' (keyAllowed || (isBreak c && !inFlow))
        (m.after c)
      refine ⟨allowed, ?_, ?_⟩
      · simp only [Json.Cursor.isBlank, Bool.or_eq_true, decide_eq_true_eq] at hblank
        simp only [List.cons_append, Mark.afterAll, List.foldl_cons] at hspacing ⊢
        rcases hblank with ((rfl | rfl) | rfl) | rfl
        · simpa [Scanner.spacing, isBreak] using hspacing
        · simpa [Scanner.spacing, isBreak] using hspacing
        · -- A tabulator stands only inside of brackets.
          have hin : inFlow = true := by
            cases inFlow with
            | true => rfl
            | false => exact absurd rfl (htab (hflow rfl))
          simpa [Scanner.spacing, isBreak, hin] using hspacing
        · simpa [Scanner.spacing, isBreak] using hspacing
      · intro hin
        rw [hallowed hin, hin]
        simp

/-! ## Plain scalars -/

/-- Whether a character belongs to a plain scalar wherever it stands in it. -/
def isWordChar (c : Char) : Bool :=
  !isSpacing c && !isFlowIndicator c && decide (c ≠ ':') && decide (c ≠ '#')

theorem isWordChar_iff {c : Char} : isWordChar c = true ↔
    isSpacing c = false ∧ isFlowIndicator c = false ∧ c ≠ ':' ∧ c ≠ '#' := by
  simp only [isWordChar, Bool.and_eq_true, Bool.not_eq_true', decide_eq_true_eq, and_assoc]

namespace PlainScalar

theorem read_word (place : PlainPlace) {chars : List Char} (h : ∀ c ∈ chars, isWordChar c = true)
    (done : List Char) (stop m : Mark) (rest : List Char) :
    ∃ stop', read place done stop none m (chars ++ rest) =
      read place (chars.reverse ++ done) stop' none (m.afterAll chars) rest := by
  induction chars generalizing done stop m with
  | nil => exact ⟨stop, rfl⟩
  | cons c chars ih =>
      obtain ⟨hspacing, hindicator, hcolon, -⟩ := isWordChar_iff.mp (h c List.mem_cons_self)
      obtain ⟨stop', hread⟩ := ih (fun d hd => h d (List.mem_cons_of_mem c hd)) (c :: done)
        (m.after c) (m.after c)
      refine ⟨stop', ?_⟩
      have hword : endsWord place.inFlow c (chars ++ rest) = false := by
        simp [endsWord, hindicator, hcolon]
      have hgood : isBadColon place.inFlow c (chars ++ rest) = false := by
        simp [isBadColon, hcolon]
      simp only [List.cons_append, List.reverse_cons, List.append_assoc, List.nil_append]
      have hafter : m.afterAll (c :: chars) = (m.after c).afterAll chars := rfl
      rw [hafter, ← hread]
      simp [read, hspacing, hword, hgood, Gap.fold, Gap.empty]

/-- A plain scalar ends in front of a comma or a bracket, and the gap between them is passed. -/
theorem read_gap {place : PlainPlace} (hflow : place.inFlow = true) (hcolumn : place.column ≤ 0)
    {gap : List Char} (hgap : ∀ c ∈ gap, isSpacing c = true) {c : Char}
    (hc : isFlowIndicator c = true) (hspacing : isSpacing c = false) (done : List Char)
    (stop m : Mark) (gap? : Option Gap) (rest : List Char) :
    ∃ m' broken, read place done stop gap? m (gap ++ c :: rest) =
      .ok ⟨String.ofList done.reverse, stop, ⟨m', c :: rest⟩, broken⟩ := by
  induction gap generalizing gap? m with
  | nil =>
      have hend : endsWord place.inFlow c rest = true := by
        simp [endsWord, hflow, hc]
      exact ⟨m, (gap?.getD Gap.empty).isBroken, by simp [read, hspacing, hend]⟩
  | cons d gap ih =>
      obtain ⟨m', broken, hread⟩ := ih (fun e he => hgap e (List.mem_cons_of_mem d he)) (m.after d)
        (some ((gap?.getD Gap.empty).add d))
      have hd := hgap d List.mem_cons_self
      have hright : decide ((m.column : Int) < place.column) = false := by
        simp only [decide_eq_false_iff_not]
        omega
      refine ⟨m', broken, ?_⟩
      simp only [List.cons_append]
      rw [read]
      simp only [hd, if_true, hright, Bool.and_false, Bool.false_eq_true, if_false]
      exact hread

end PlainScalar

/-! ## Quoted scalars -/

theorem lt_of_readDigits? {base : Nat} {chars : List Char} {value n : Nat}
    (h : Text.readDigits? base value chars = some n) :
    n < (value + 1) * Nat.pow base chars.length := by
  induction chars generalizing value with
  | nil =>
      obtain rfl := Option.some.inj h
      simp
  | cons c chars ih =>
      obtain ⟨digit, -, hlt, hrest⟩ := Text.readDigits?_cons_eq_some.mp h
      have hstep : value * base + digit + 1 ≤ (value + 1) * base := by
        rw [Nat.add_mul]
        omega
      calc n < (value * base + digit + 1) * Nat.pow base chars.length := ih hrest
        _ ≤ (value + 1) * base * Nat.pow base chars.length := Nat.mul_le_mul_right _ hstep
        _ = (value + 1) * (Nat.pow base chars.length * base) := by
            rw [Nat.mul_assoc, Nat.mul_comm base]

/-- Four digits that are not one half of a pair are a character. -/
theorem escapedCodePoint_of_digits (start place : Mark) {a b c d : Char} {n : Nat}
    (h : Text.digits? 16 [a, b, c, d] = some n) (hhigh : Json.isHighSurrogate n = false)
    (hlow : Json.isLowSurrogate n = false) :
    escapedCodePoint start place [a, b, c, d] = .ok (Char.ofNat n) := by
  have hread : Text.readDigits? 16 0 [a, b, c, d] = some n := h
  have hpower : Nat.pow 16 4 = 0x10000 := by decide
  have hbound : n < (0 + 1) * Nat.pow 16 4 := lt_of_readDigits? hread
  rw [Nat.zero_add, Nat.one_mul, hpower] at hbound
  have hpair : ¬ ((0xD800 ≤ n ∧ n ≤ 0xDFFF) ∨ 0x10FFFF < n) := by
    simp only [Json.isHighSurrogate, Json.isLowSurrogate, Bool.and_eq_false_iff,
      decide_eq_false_iff_not] at hhigh hlow
    omega
  simp only [escapedCodePoint, h, if_neg hpair]

/-! ### Characters of glyphs -/

/-- Visible ASCII characters and the space stand for themselves. -/
theorem isAllowed_of_toNat {c : Char} (hlow : 0x20 ≤ c.toNat) (hhigh : c.toNat ≤ 0x7E) :
    isAllowed c = true ∧ isBreak c = false := by
  have hlow' : ' ' ≤ c := hlow
  have hhigh' : c ≤ '~' := hhigh
  refine ⟨by simp [isAllowed, hlow', hhigh'], ?_⟩
  cases hbreak : isBreak c with
  | false => rfl
  | true =>
      simp only [isBreak, Bool.or_eq_true, decide_eq_true_eq] at hbreak
      rcases hbreak with (((rfl | rfl) | rfl) | rfl) | rfl <;> revert hlow hhigh <;> decide

theorem toNat_of_hexDigit? {c : Char} {digit : Nat} (h : Text.hexDigit? c = some digit) :
    0x30 ≤ c.toNat ∧ c.toNat ≤ 0x66 := by
  unfold Text.hexDigit? at h
  split at h
  next hdigit =>
    simp only [Char.isDigit, Bool.and_eq_true, decide_eq_true_eq] at hdigit
    have hlow : 0x30 ≤ c.toNat := hdigit.1
    have hhigh : c.toNat ≤ 0x39 := hdigit.2
    omega
  next =>
    split at h
    next hletter =>
      have hlow : 0x61 ≤ c.toNat := hletter.1
      have hhigh : c.toNat ≤ 0x66 := hletter.2
      omega
    next =>
      split at h
      next hletter =>
        have hlow : 0x41 ≤ c.toNat := hletter.1
        have hhigh : c.toNat ≤ 0x46 := hletter.2
        omega
      next => simp at h

theorem hexDigit?_of_readDigits? {base : Nat} {chars : List Char} {value n : Nat}
    (h : Text.readDigits? base value chars = some n) :
    ∀ c ∈ chars, ∃ digit, Text.hexDigit? c = some digit := by
  induction chars generalizing value with
  | nil => simp
  | cons c chars ih =>
      obtain ⟨digit, hdigit, -, hrest⟩ := Text.readDigits?_cons_eq_some.mp h
      exact List.forall_mem_cons.mpr ⟨⟨digit, hdigit⟩, ih hrest⟩

/-- Every character of a glyph may stand in a YAML text, and none ends a line. -/
theorem isAllowed_of_mem_chars (glyph : Glyph) :
    ∀ c ∈ glyph.chars, isAllowed c = true ∧ isBreak c = false := by
  cases glyph with
  | plain c h =>
      obtain ⟨hallowed, hbreak, -⟩ := isPlain_iff.mp h
      exact List.forall_mem_singleton.mpr ⟨hallowed, hbreak⟩
  | letter e c h =>
      have hletter : isAllowed e = true ∧ isBreak e = false := by
        unfold Json.simpleEscape? at h
        split at h
        case h_9 => exact absurd h (by simp)
        all_goals decide
      have hslash : isAllowed '\\' = true ∧ isBreak '\\' = false := by decide
      exact List.forall_mem_cons.mpr ⟨hslash, List.forall_mem_singleton.mpr hletter⟩
  | digits a b c d n h hhigh hlow =>
      have hread : Text.readDigits? 16 0 [a, b, c, d] = some n := h
      have hdigits : ∀ x ∈ [a, b, c, d], isAllowed x = true ∧ isBreak x = false := by
        intro x hx
        obtain ⟨digit, hdigit⟩ := hexDigit?_of_readDigits? hread x hx
        obtain ⟨hlow, hhigh⟩ := toNat_of_hexDigit? hdigit
        exact isAllowed_of_toNat (by omega) (by omega)
      have hunit : ∀ c ∈ ['\\', 'u'], isAllowed c = true ∧ isBreak c = false :=
        List.forall_mem_cons.mpr ⟨by decide, List.forall_mem_singleton.mpr (by decide)⟩
      exact List.forall_mem_append.mpr ⟨hunit, hdigits⟩

/-! ### Reading -/

/-- What has been read of a scalar, with the spacing that was met since. -/
def joined (done : List Char) (gap? : Option Gap) : List Char :=
  (gap?.getD Gap.empty).fold.reverse ++ done

@[simp] theorem joined_none (done : List Char) : joined done none = done := rfl

/-- A blank in spacing without a break is kept where it was met. -/
theorem joined_add_space {gap? : Option Gap} (h : ∀ g ∈ gap?, g.leading? = none)
    (done : List Char) :
    joined done (some ((gap?.getD Gap.empty).add ' ')) = ' ' :: joined done gap? ∧
      ((gap?.getD Gap.empty).add ' ').leading? = none := by
  have hleading : (gap?.getD Gap.empty).leading? = none := by
    cases gap? with
    | none => rfl
    | some g => exact h g rfl
  have hspace : isBreak ' ' = false := by decide
  constructor
  · simp [joined, Gap.add, Gap.fold, hleading, hspace]
  · simp [Gap.add, hleading, hspace]

section Quoted

variable {start m : Mark} {done : List Char} {gap? : Option Gap} {rest : List Char}

theorem isDocumentMark_of_column (hm : 0 < m.column) (rest : List Char) :
    isDocumentMark m rest = false := by
  have hcolumn : decide (m.column = 0) = false := by
    simp only [decide_eq_false_iff_not]
    omega
  simp [isDocumentMark, hcolumn]

theorem readDoubleQuoted_quote (hm : 0 < m.column) :
    readDoubleQuoted start done gap? m ('"' :: rest) =
      .ok (String.ofList (joined done gap?).reverse, ⟨m.after '"', rest⟩) := by
  rw [readDoubleQuoted]
  · simp [isDocumentMark_of_column hm, isSpacing, isBlank, isBreak, joined]
  all_goals simp

theorem readDoubleQuoted_space :
    readDoubleQuoted start done gap? m (' ' :: rest) =
      readDoubleQuoted start done (some ((gap?.getD Gap.empty).add ' ')) (m.after ' ') rest := by
  rw [readDoubleQuoted]
  · simp [isSpacing, isBlank]
  all_goals simp

theorem readDoubleQuoted_plain (hm : 0 < m.column) {c : Char} (hspacing : isSpacing c = false)
    (hquote : c ≠ '"') (hslash : c ≠ '\\') :
    readDoubleQuoted start done gap? m (c :: rest) =
      readDoubleQuoted start (c :: joined done gap?) none (m.after c) rest := by
  rw [readDoubleQuoted]
  · simp [isDocumentMark_of_column hm, hspacing, hquote, hslash, joined]
  all_goals simp [hslash]

/-- Every letter that JSON escapes with stands for the same character in YAML. -/
theorem escapedLetter?_of_simpleEscape? {e c : Char} (h : Json.simpleEscape? e = some c) :
    escapedLetter? e = some c ∧ isBreak e = false ∧ e ≠ 'x' ∧ e ≠ 'u' ∧ e ≠ 'U' := by
  unfold Json.simpleEscape? at h
  split at h
  case h_9 => exact absurd h (by simp)
  all_goals
    obtain rfl := Option.some.inj h
    decide

theorem readDoubleQuoted_letter {e c : Char} (h : Json.simpleEscape? e = some c) :
    readDoubleQuoted start done gap? m ('\\' :: e :: rest) =
      readDoubleQuoted start (c :: joined done gap?) none (m.afterAll ['\\', e]) rest := by
  obtain ⟨hletter, hbreak, hx, hu, hU⟩ := escapedLetter?_of_simpleEscape? h
  rw [readDoubleQuoted]
  · simp only [hletter, hbreak, Bool.false_eq_true, if_false, joined]
  all_goals simp [hx, hu, hU]

theorem readDoubleQuoted_digits {a b c d : Char} {n : Nat}
    (h : Text.digits? 16 [a, b, c, d] = some n) (hhigh : Json.isHighSurrogate n = false)
    (hlow : Json.isLowSurrogate n = false) :
    readDoubleQuoted start done gap? m ('\\' :: 'u' :: a :: b :: c :: d :: rest) =
      readDoubleQuoted start (Char.ofNat n :: joined done gap?) none
        (m.afterAll ['\\', 'u', a, b, c, d]) rest := by
  rw [readDoubleQuoted]
  simp only [escapedCodePoint_of_digits _ _ h hhigh hlow, joined]

/-- A quoted scalar is read glyph by glyph; blanks are kept apart until something else follows. -/
theorem readDoubleQuoted_glyphs (glyphs : List Glyph) (hm : 0 < m.column)
    (hgap : ∀ g ∈ gap?, g.leading? = none) :
    readDoubleQuoted start done gap? m (glyphs.flatMap Glyph.chars ++ '"' :: rest) =
      .ok (String.ofList ((joined done gap?).reverse ++ glyphs.map Glyph.char),
        ⟨m.afterAll (glyphs.flatMap Glyph.chars ++ ['"']), rest⟩) := by
  induction glyphs generalizing done gap? m with
  | nil =>
      rw [List.flatMap_nil, List.nil_append, readDoubleQuoted_quote hm]
      simp [Mark.afterAll]
  | cons glyph glyphs ih =>
      simp only [List.flatMap_cons, List.append_assoc]
      have hbreaks : ∀ c ∈ glyph.chars, isBreak c = false :=
        fun c hc => (isAllowed_of_mem_chars glyph c hc).2
      have hafter : 0 < (m.afterAll glyph.chars).column := by
        rw [Mark.afterAll_of_isBreak_eq_false hbreaks]
        exact Nat.lt_of_lt_of_le hm (Nat.le_add_right _ _)
      have hmark : m.afterAll (glyph.chars ++ (glyphs.flatMap Glyph.chars ++ ['"'])) =
          (m.afterAll glyph.chars).afterAll (glyphs.flatMap Glyph.chars ++ ['"']) := by
        simp [Mark.afterAll]
      rw [hmark]
      cases glyph with
      | plain c h =>
          obtain ⟨-, hbreak, hprint, hquote, hslash⟩ := isPlain_iff.mp h
          by_cases hspace : c = ' '
          · subst hspace
            obtain ⟨hjoined, hleading⟩ := joined_add_space hgap done
            have hkept : ∀ g ∈ some ((gap?.getD Gap.empty).add ' '), g.leading? = none := by
              intro g hg
              obtain rfl := Option.some.inj hg
              exact hleading
            refine readDoubleQuoted_space.trans ((ih hafter hkept).trans ?_)
            rw [hjoined]
            simp [Glyph.char]
          · have htab : c ≠ '\t' := by
              rintro rfl
              exact absurd hprint (by decide)
            have hspacing : isSpacing c = false := by
              simp [isSpacing, isBlank, hspace, htab, hbreak]
            refine (readDoubleQuoted_plain hm hspacing hquote hslash).trans
              ((ih hafter (by simp)).trans ?_)
            simp [Glyph.char]
      | letter e c h =>
          refine (readDoubleQuoted_letter h).trans ((ih hafter (by simp)).trans ?_)
          simp [Glyph.char]
      | digits a b c d n h hhigh hlow =>
          refine (readDoubleQuoted_digits h hhigh hlow).trans ((ih hafter (by simp)).trans ?_)
          simp [Glyph.char]

end Quoted

end ResourceTemplate.Yaml

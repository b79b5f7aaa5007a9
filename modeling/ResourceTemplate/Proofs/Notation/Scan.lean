import ResourceTemplate.Proofs.Notation.Scalar

/-!
# Scanning the shared notation

Between the outermost brackets of a text nothing but flow collections is open.  There every sign is
scanned to its own tokens, whatever stands in front of it, and a text that is written with signs is
scanned to the tokens of its signs.
-/

namespace ResourceTemplate.Yaml.Scanner

open Notation

variable {s : Scanner} {depth : Nat} {rest : List Char}

/-- So many flow collections are open and nothing else, and no place must be a key. -/
structure Inside (depth : Nat) (s : Scanner) : Prop where
  flowDepth : s.flowDepth = depth
  indent : s.indent = noIndent
  outer : s.outer = []
  pending : ∀ key ∈ s.pending?, key.required = false
  outerPending : ∀ key? ∈ s.outerPending, ∀ key ∈ key?, key.required = false
  length : s.outerPending.length = depth

/-! ## In front of a sign -/

theorem unindentTo_eq_self (hs : Inside depth s) (column : Int) : s.unindentTo column = s := by
  have hclosed : closedAt column s.indent s.outer = (0, s.indent, s.outer) := by
    rw [hs.outer]
    rfl
  unfold unindentTo
  split
  · rfl
  · simp [hclosed]

theorem exists_dropStale {key? : Option PendingKey} (h : ∀ key ∈ key?, key.required = false)
    (m : Mark) : ∃ left?, dropStale m key? = .ok left? ∧ (∀ key ∈ left?, key.required = false) ∧
      ∀ key ∈ key?, isStale key m = false → left? = some key := by
  cases key? with
  | none => exact ⟨none, rfl, by simp, by simp⟩
  | some key =>
      have hkey := h key rfl
      cases hstale : isStale key m with
      | false =>
          refine ⟨some key, by simp [dropStale, hstale], h, ?_⟩
          intro other hother _
          exact hother
      | true =>
          refine ⟨none, by simp [dropStale, hstale, hkey], by simp, ?_⟩
          intro other hother hfresh
          obtain rfl := Option.some.inj hother
          simp [hstale] at hfresh

theorem exists_mapM_dropStale {keys : List (Option PendingKey)}
    (h : ∀ key? ∈ keys, ∀ key ∈ key?, key.required = false) (m : Mark) :
    ∃ left, keys.mapM (dropStale m) = .ok left ∧ left.length = keys.length ∧
      ∀ key? ∈ left, ∀ key ∈ key?, key.required = false := by
  induction keys with
  | nil => exact ⟨[], rfl, rfl, by simp⟩
  | cons key? keys ih =>
      obtain ⟨left?, hdrop, hfree, -⟩ := exists_dropStale (h key? List.mem_cons_self) m
      obtain ⟨left, hkeys, hlength, hrest⟩ := ih fun k hk => h k (List.mem_cons_of_mem key? hk)
      refine ⟨left? :: left, ?_, by simp [hlength], List.forall_mem_cons.mpr ⟨hfree, hrest⟩⟩
      simp only [List.mapM_cons, hdrop, hkeys, bind, Except.bind, pure, Except.pure]

theorem exists_dropAllStale (hs : Inside depth s) :
    ∃ pending? outerPending,
      s.dropAllStale = .ok { s with pending? := pending?, outerPending := outerPending } ∧
      Inside depth { s with pending? := pending?, outerPending := outerPending } ∧
      ∀ key ∈ s.pending?, isStale key s.cursor.mark = false → pending? = some key := by
  obtain ⟨pending?, hpending, hfree, hkept⟩ := exists_dropStale hs.pending s.cursor.mark
  obtain ⟨outerPending, houter, hlength, hrest⟩ :=
    exists_mapM_dropStale hs.outerPending s.cursor.mark
  refine ⟨pending?, outerPending, ?_, ?_, hkept⟩
  · simp only [dropAllStale, hpending, houter, bind, Except.bind, pure, Except.pure]
  · exact ⟨hs.flowDepth, hs.indent, hs.outer, hfree, hrest, hlength.trans hs.length⟩

/-- In front of the next token, which is scanned next. -/
structure Ready (s next : Scanner) (depth : Nat) (gap rest : List Char) : Prop where
  inside : Inside depth next
  cursor : next.cursor = ⟨s.cursor.mark.afterAll gap, rest⟩
  keyAllowed : 0 < depth → next.keyAllowed = s.keyAllowed
  tokens : next.tokens = s.tokens
  count : next.count = s.count
  pending : ∀ key ∈ s.pending?, isStale key next.cursor.mark = false → next.pending? = some key
  goesOn : ∀ fuel following, rest ≠ [] → next.token = .ok following →
    s.run (fuel + 1) = following.run fuel
  ends : ∀ fuel last, rest = [] → next.finish = .ok last → s.run (fuel + 1) = (last, none)

theorem exists_ready (hs : Inside depth s) {gap : List Char} (hgap : IsGap depth gap)
    (hrest : BeginsToken rest) (hplace : s.cursor.rest = gap ++ rest) :
    ∃ next, Ready s next depth gap rest := by
  have hflow : s.inFlow = false → depth = 0 := by
    simp [inFlow, hs.flowDepth]
  obtain ⟨allowed, hspacing, hallowed⟩ :=
    spacing_gap hgap hrest hflow s.keyAllowed s.cursor.mark
  rw [← hplace] at hspacing
  let passed : Scanner :=
    { s with cursor := ⟨s.cursor.mark.afterAll gap, rest⟩, keyAllowed := allowed }
  have hpassed : s.toNextToken = passed := by
    simp only [toNextToken, hspacing]
    rfl
  have hinside : Inside depth passed :=
    ⟨hs.flowDepth, hs.indent, hs.outer, hs.pending, hs.outerPending, hs.length⟩
  obtain ⟨pending?, outerPending, hdrop, hnext, hkept⟩ := exists_dropAllStale hinside
  have hmargin := unindentTo_eq_self hnext passed.cursor.mark.column
  refine ⟨{ passed with pending? := pending?, outerPending := outerPending }, hnext, rfl, ?_, rfl,
    rfl, hkept, ?_, ?_⟩
  · intro hdepth
    refine hallowed ?_
    cases hin : s.inFlow with
    | true => rfl
    | false => exact absurd (hflow hin) (by omega)
  · intro fuel following hne htoken
    have hmore : rest.isEmpty = false := by simpa using hne
    simp only [run, hpassed, hdrop, hmargin, passed, hmore, Bool.false_eq_true,
      if_false] at htoken ⊢
    rw [htoken]
  · intro fuel last hempty hfinish
    subst hempty
    simp only [run, hpassed, hdrop, hmargin, passed, List.isEmpty_nil, if_true] at hfinish ⊢
    rw [hfinish]

/-! ## Signs -/

/-- A scanner has gone on behind a sign with so many open brackets, and found tokens. -/
structure Passed (s following : Scanner) (depth : Nat) (rest : List Char) (tokens : List Token) :
    Prop where
  inside : Inside depth following
  rest : following.cursor.rest = rest
  tokens : following.tokens.map Lexeme.token = tokens.reverse ++ s.tokens.map Lexeme.token

theorem exists_dropKey (hs : Inside depth s) :
    s.dropKey = .ok { s with pending? := none } := by
  unfold dropKey
  split
  next hnone => rw [← hnone]
  next key hkey =>
    have hfree := hs.pending key hkey
    simp [hfree]

theorem exists_noteKey (hs : Inside depth s) :
    ∃ pending?, s.noteKey = .ok { s with pending? := pending? } ∧
      (∀ key ∈ pending?, key.required = false) ∧
      (s.keyAllowed = true → pending? = some ⟨false, s.count, s.cursor.mark⟩) := by
  by_cases hallowed : s.keyAllowed = true
  · have hrequired : decide (s.indent = (s.cursor.mark.column : Int)) = false := by
      rw [hs.indent, noIndent]
      simp only [decide_eq_false_iff_not]
      omega
    refine ⟨some ⟨false, s.count, s.cursor.mark⟩, ?_, ?_, fun _ => rfl⟩
    · simp only [noteKey, hallowed, exists_dropKey hs, hrequired, Bool.and_false, Bool.not_true,
        Bool.false_eq_true, if_false, bind, Except.bind, pure, Except.pure]
    · intro key hkey
      obtain rfl := Option.some.inj hkey
      rfl
  · refine ⟨s.pending?, ?_, hs.pending, fun h => absurd h hallowed⟩
    unfold noteKey
    rw [if_pos (by simpa using hallowed)]

theorem exists_openFlow (hs : Inside depth s) (token : Token) {c : Char}
    (hrest : s.cursor.rest = c :: rest) :
    ∃ following, s.openFlow token = .ok following ∧ Passed s following (depth + 1) rest [token] ∧
      following.keyAllowed = true := by
  obtain ⟨pending?, hnote, hfree, -⟩ := exists_noteKey hs
  refine ⟨_, by simp only [openFlow, hnote, bind, Except.bind, pure, Except.pure]; rfl, ?_, rfl⟩
  refine ⟨⟨?_, hs.indent, hs.outer, by simp, ?_, ?_⟩, ?_, ?_⟩
  · simp [pushChars, push, hs.flowDepth]
  · exact List.forall_mem_cons.mpr ⟨hfree, hs.outerPending⟩
  · simp [pushChars, push, hs.length]
  · simp [pushChars, Cursor.skip, hrest]
  · simp [pushChars, push]

theorem exists_closeFlow (hs : Inside (depth + 1) s) (token : Token) {c : Char}
    (hrest : s.cursor.rest = c :: rest) :
    ∃ following, s.closeFlow token = .ok following ∧ Passed s following depth rest [token] := by
  cases hpendings : s.outerPending with
  | nil =>
      have hlength := hs.length
      rw [hpendings] at hlength
      exact absurd hlength (by simp)
  | cons key? outer =>
      have hfree := hs.outerPending
      have hlength := hs.length
      rw [hpendings] at hfree hlength
      have hclose : s.closeFlow token = .ok
          { s.pushChars token 1 with
            keyAllowed := false, flowDepth := s.flowDepth - 1, pending? := key?,
            outerPending := outer } := by
        simp only [closeFlow, exists_dropKey hs, bind, Except.bind, pushChars, push, hpendings]
        rfl
      refine ⟨_, hclose, ⟨?_, hs.indent, hs.outer, ?_, ?_, ?_⟩, ?_, ?_⟩
      · simp [hs.flowDepth]
      · exact hfree key? List.mem_cons_self
      · exact fun other hother => hfree other (List.mem_cons_of_mem key? hother)
      · simpa using hlength
      · simp [pushChars, Cursor.skip, hrest]
      · simp [pushChars, push]

theorem exists_comma (hs : Inside depth s) {c : Char} (hrest : s.cursor.rest = c :: rest) :
    ∃ following, s.comma = .ok following ∧ Passed s following depth rest [.comma] ∧
      following.keyAllowed = true := by
  refine ⟨_, by simp only [comma, exists_dropKey hs, bind, Except.bind, pure, Except.pure]; rfl, ?_,
    rfl⟩
  refine ⟨⟨hs.flowDepth, hs.indent, hs.outer, by simp [pushChars, push], hs.outerPending, hs.length⟩,
    ?_, ?_⟩
  · simp [pushChars, Cursor.skip, hrest]
  · simp [pushChars, push]

theorem isAllowed_of_mem_quoted (glyphs : List Glyph) :
    ∀ c ∈ Notation.quoted glyphs, isAllowed c = true ∧ isBreak c = false := by
  intro c hc
  simp only [Notation.quoted, List.mem_cons, List.mem_append, List.mem_flatMap, List.not_mem_nil,
    or_false] at hc
  rcases hc with rfl | ⟨glyph, -, hglyph⟩ | rfl
  · decide
  · exact isAllowed_of_mem_chars glyph c hglyph
  · decide

/-- A string is scanned, and a key may have begun with it. -/
theorem exists_quoted (hs : Inside depth s) (glyphs : List Glyph)
    (hrest : s.cursor.rest = Notation.quoted glyphs ++ rest) :
    ∃ following lexeme, s.quoted .doubleQuoted = .ok following ∧
      following.tokens = lexeme :: s.tokens ∧
      Passed s following depth rest [.scalar .doubleQuoted (textOf glyphs)] ∧
      following.cursor.mark = s.cursor.mark.afterAll (Notation.quoted glyphs) ∧
      following.count = s.count + 1 ∧
      (s.keyAllowed = true → following.pending? = some ⟨false, s.count, s.cursor.mark⟩) := by
  obtain ⟨pending?, hnote, hfree, hkey⟩ := exists_noteKey hs
  let behind : Cursor := ⟨s.cursor.mark.afterAll (Notation.quoted glyphs), rest⟩
  have hcursor : s.cursor.next =
      ⟨s.cursor.mark.after '"', glyphs.flatMap Glyph.chars ++ '"' :: rest⟩ := by
    simp [Cursor.next, hrest, Notation.quoted]
  have hcolumn : 0 < (s.cursor.mark.after '"').column := by
    have hbreak : isBreak '"' = false := by decide
    simp [Mark.after, hbreak]
  have hread : readDoubleQuoted s.cursor.mark [] none (s.cursor.mark.after '"')
      (glyphs.flatMap Glyph.chars ++ '"' :: rest) = .ok (textOf glyphs, behind) := by
    rw [readDoubleQuoted_glyphs glyphs hcolumn (by simp)]
    rfl
  have hquoted : s.quoted .doubleQuoted = .ok
      { s with
        cursor := behind, keyAllowed := false, pending? := pending?,
        tokens := ⟨.scalar .doubleQuoted (textOf glyphs), s.cursor.mark, behind.mark⟩ :: s.tokens,
        count := s.count + 1 } := by
    simp only [Scanner.quoted, node, hnote, hcursor, bind, Except.bind, pure, Except.pure,
      reduceCtorEq, if_false, hread, Except.map, push]
  refine ⟨_, _, hquoted, rfl, ⟨⟨hs.flowDepth, hs.indent, hs.outer, hfree, hs.outerPending, hs.length⟩,
    rfl, rfl⟩, rfl, rfl, hkey⟩

/-- Characters of which a word may begin a plain scalar. -/
theorem exists_plain (hs : Inside (depth + 1) s) {chars gap : List Char}
    (hchars : ∀ c ∈ chars, isWordChar c = true) (hgap : ∀ c ∈ gap, isSpacing c = true) {c : Char}
    (hc : isFlowIndicator c = true) (hspacing : isSpacing c = false)
    (hrest : s.cursor.rest = chars ++ (gap ++ c :: rest)) :
    ∃ following, s.plain = .ok following ∧
      Passed s following (depth + 1) (c :: rest) [.scalar .plain (String.ofList chars)] := by
  obtain ⟨pending?, hnote, hfree, -⟩ := exists_noteKey hs
  let place : PlainPlace := ⟨s.inFlow, s.indent + 1, s.cursor.mark⟩
  have hflow : place.inFlow = true := by
    simp [place, inFlow, hs.flowDepth]
  have hcolumn : place.column ≤ 0 := by
    simp [place, hs.indent, noIndent]
  obtain ⟨stop, hword⟩ := PlainScalar.read_word place hchars [] s.cursor.mark s.cursor.mark
    (gap ++ c :: rest)
  obtain ⟨m, broken, hread⟩ := PlainScalar.read_gap hflow hcolumn hgap hc hspacing
    (chars.reverse ++ []) stop (s.cursor.mark.afterAll chars) none rest
  rw [List.append_nil, List.reverse_reverse] at hread
  rw [List.append_nil, hread, ← hrest] at hword
  have hplain : s.plain = .ok
      { s with
        cursor := ⟨m, c :: rest⟩, keyAllowed := broken, pending? := pending?,
        tokens := ⟨.scalar .plain (String.ofList chars), s.cursor.mark, stop⟩ :: s.tokens,
        count := s.count + 1 } := by
    simp only [place, inFlow] at hword
    simp only [plain, hnote, bind, Except.bind, pure, Except.pure, inFlow, hword, push]
  exact ⟨_, hplain, ⟨hs.flowDepth, hs.indent, hs.outer, hfree, hs.outerPending, hs.length⟩, rfl, rfl⟩

/-- A colon is scanned to the end of a key that began with the token before it. -/
theorem exists_value (hs : Inside (depth + 1) s) {key : PendingKey} {lexeme : Lexeme}
    {before : List Lexeme} (hkey : s.pending? = some key) (hcount : s.count = key.number + 1)
    (htokens : s.tokens = lexeme :: before) {c : Char} (hrest : s.cursor.rest = c :: rest) :
    ∃ following, s.value = .ok following ∧ Inside (depth + 1) following ∧
      following.cursor.rest = rest ∧
      following.tokens.map Lexeme.token =
        .value :: lexeme.token :: .key :: before.map Lexeme.token := by
  have hflow : s.inFlow = true := by
    simp [inFlow, hs.flowDepth]
  have hbehind : s.count - key.number = 1 := by omega
  have hvalue : s.value = .ok
      { (s.insert key.number .key key.start).pushChars .value 1 with
        pending? := none, keyAllowed := false } := by
    simp only [value, hkey, indentTo, insert, inFlow] at hflow ⊢
    simp only [hflow, Bool.true_or, if_true]
  refine ⟨_, hvalue, ⟨hs.flowDepth, hs.indent, hs.outer, by simp, hs.outerPending, hs.length⟩, ?_, ?_⟩
  · simp [pushChars, Cursor.skip, insert, hrest]
  · simp [pushChars, push, insert, hbehind, htokens]

/-! ## Which sign comes next -/

theorem beginsTriple_of_ne {x c : Char} (h : c ≠ x) (rest : List Char) :
    beginsTriple x (c :: rest) = false := by
  unfold beginsTriple
  split
  next heq =>
    obtain ⟨rfl, -⟩ := List.cons.inj heq
    simp [h]
  next => rfl

theorem token_openArray (hrest : s.cursor.rest = '[' :: rest) :
    s.token = s.openFlow .flowSequenceStart := by
  simp [token, hrest, beginsTriple_of_ne]

theorem token_openObject (hrest : s.cursor.rest = '\x7b' :: rest) :
    s.token = s.openFlow .flowMappingStart := by
  simp [token, hrest, beginsTriple_of_ne]

theorem token_closeArray (hrest : s.cursor.rest = ']' :: rest) :
    s.token = s.closeFlow .flowSequenceEnd := by
  simp [token, hrest, beginsTriple_of_ne]

theorem token_closeObject (hrest : s.cursor.rest = '\x7d' :: rest) :
    s.token = s.closeFlow .flowMappingEnd := by
  simp [token, hrest, beginsTriple_of_ne]

theorem token_comma (hrest : s.cursor.rest = ',' :: rest) : s.token = s.comma := by
  simp [token, hrest, beginsTriple_of_ne]

theorem token_quoted (hrest : s.cursor.rest = '"' :: rest) :
    s.token = s.quoted .doubleQuoted := by
  simp [token, hrest, beginsTriple_of_ne]

theorem token_value (hs : Inside (depth + 1) s) (hrest : s.cursor.rest = ':' :: rest) :
    s.token = s.value := by
  have hflow : s.inFlow = true := by
    simp [inFlow, hs.flowDepth]
  simp [token, hrest, beginsTriple_of_ne, hflow]

/-- A letter or a digit begins a plain scalar. -/
theorem token_alphanumeric {c : Char} (hc : c.isAlphanum = true)
    (hrest : s.cursor.rest = c :: rest) : s.token = s.plain := by
  have hne : ∀ x : Char, x.isAlphanum = false → c ≠ x := by
    rintro x hx rfl
    simp [hx] at hc
  have hplain : beginsPlain s.inFlow c rest = true := by
    have hspacing : isSpacing c = false := by
      simp [isSpacing, isBlank, isBreak, hne]
    have hindicator : c ∉ Style.leadingIndicators := by
      simp [Style.leadingIndicators, hne]
    simp [beginsPlain, hne, hspacing, hindicator]
  simp [token, hrest, beginsTriple_of_ne, hne, hplain]

/-- So does a minus in front of a digit. -/
theorem token_minus {d : Char} (hd : d.isDigit = true) (hrest : s.cursor.rest = '-' :: d :: rest) :
    s.token = s.plain := by
  have hne : ∀ x : Char, x.isDigit = false → d ≠ x := by
    rintro x hx rfl
    simp [hx] at hd
  have hspacing : isSpacing d = false := by
    simp [isSpacing, isBlank, isBreak, hne]
  have hdash : beginsTriple '-' ('-' :: d :: rest) = false := by
    unfold beginsTriple
    split
    next heq =>
      obtain ⟨-, hrest⟩ := List.cons.inj heq
      obtain ⟨rfl, -⟩ := List.cons.inj hrest
      simp [hne]
    next => rfl
  have hblank : isBlank d = false := by
    simp [isBlank, hne]
  simp [token, hrest, hdash, beginsTriple_of_ne, atSpacing, hspacing, beginsPlain, hblank]

theorem token_word (w : Word) (hrest : s.cursor.rest = w.chars ++ rest) : s.token = s.plain := by
  cases w with
  | null => exact token_alphanumeric (by decide) hrest
  | flag b =>
      cases b with
      | true => exact token_alphanumeric (by decide) hrest
      | false => exact token_alphanumeric (by decide) hrest
  | numeral chars number h =>
      obtain ⟨c, tail, rfl, hdigit | ⟨rfl, d, tail, rfl, hdigit⟩⟩ := h.exists_head
      · exact token_alphanumeric (by simp [Char.isAlphanum, hdigit]) hrest
      · exact token_minus hdigit hrest

end ResourceTemplate.Yaml.Scanner

namespace ResourceTemplate.Notation

namespace Sign

/-- The tokens of a sign. -/
def tokens : Sign → List Yaml.Token
  | openArray => [.flowSequenceStart]
  | closeArray => [.flowSequenceEnd]
  | openObject => [.flowMappingStart]
  | closeObject => [.flowMappingEnd]
  | comma => [.comma]
  | key k => [.key, .scalar .doubleQuoted (textOf k.glyphs), .value]
  | text glyphs => [.scalar .doubleQuoted (textOf glyphs)]
  | word w => [.scalar .plain (String.ofList w.chars)]

/-- How many times something is scanned in a sign. -/
def steps : Sign → Nat
  | key _ => 2
  | _ => 1

/-- Whether a key may stand behind a sign. -/
def allowsKey : Sign → Bool
  | openArray => true
  | openObject => true
  | comma => true
  | _ => false

/-- Whether a sign may stand behind another: a separator behind a word, and a key where one is
allowed. -/
def MayFollow (sign previous : Sign) : Prop :=
  (∀ w, previous = word w → sign.isSeparator = true) ∧
    (∀ k, sign = key k → previous.allowsKey = true)

end Sign

/-- Signs that may stand one behind the other, and behind a sign before them. -/
def Follow : Sign → List Sign → Prop
  | _, [] => True
  | previous, sign :: signs => sign.MayFollow previous ∧ Follow sign signs

end ResourceTemplate.Notation

namespace ResourceTemplate.Yaml.Scanner

open Notation

variable {s : Scanner} {depth : Nat} {rest : List Char}

/-! ## Signs one after the other -/

theorem beginsToken_of_isAlphanum {c : Char} (h : c.isAlphanum = true) (rest : List Char) :
    BeginsToken (c :: rest) := by
  have hne : ∀ x : Char, x.isAlphanum = false → c ≠ x := by
    rintro x hx rfl
    simp [hx] at h
  have hspacing : isSpacing c = false := by
    simp [isSpacing, isBlank, isBreak, hne]
  exact beginsToken_cons ⟨hspacing, hne '#' (by decide), hne byteOrderMark (by decide)⟩ rest

theorem beginsToken_chars (sign : Sign) (rest : List Char) : BeginsToken (sign.chars ++ rest) := by
  cases sign with
  | openArray | closeArray | openObject | closeObject | comma | key | text =>
      exact beginsToken_cons (by decide) _
  | word w =>
      cases w with
      | null => exact beginsToken_of_isAlphanum (by decide) _
      | flag b =>
          cases b with
          | true => exact beginsToken_of_isAlphanum (by decide) _
          | false => exact beginsToken_of_isAlphanum (by decide) _
      | numeral chars number h =>
          obtain ⟨c, tail, rfl, hdigit | ⟨rfl, -⟩⟩ := h.exists_head
          · exact beginsToken_of_isAlphanum (by simp [Char.isAlphanum, hdigit]) _
          · exact beginsToken_cons (by decide) _

theorem isWordChar_of_mem_chars (w : Word) : ∀ c ∈ w.chars, isWordChar c = true := by
  cases w with
  | null => exact List.all_eq_true.mp rfl
  | flag b =>
      cases b with
      | true => exact List.all_eq_true.mp rfl
      | false => exact List.all_eq_true.mp rfl
  | numeral chars number h =>
      intro c hc
      have hnumeral := h.allowed c hc
      simp only [Json.isNumeralChar, Bool.or_eq_true, decide_eq_true_eq] at hnumeral
      rcases hnumeral with ((((hdigit | rfl) | rfl) | rfl) | rfl) | rfl
      · have hne : ∀ x : Char, x.isDigit = false → c ≠ x := by
          rintro x hx rfl
          simp [hx] at hdigit
        simp [isWordChar, isSpacing, isBlank, isBreak, isFlowIndicator, hne]
      all_goals decide

theorem exists_separator (sep : Sign) (h : sep.isSeparator = true) :
    ∃ c, sep.chars = [c] ∧ isFlowIndicator c = true ∧ isSpacing c = false := by
  cases sep with
  | comma => exact ⟨',', rfl, by decide, by decide⟩
  | closeArray => exact ⟨']', rfl, by decide, by decide⟩
  | closeObject => exact ⟨'\x7d', rfl, by decide, by decide⟩
  | _ => simp [Sign.isSeparator] at h

theorem isSpacing_of_isBlank {c : Char} (h : Json.Cursor.isBlank c = true) :
    isSpacing c = true := by
  simp only [Json.Cursor.isBlank, Bool.or_eq_true, decide_eq_true_eq] at h
  rcases h with ((rfl | rfl) | rfl) | rfl <;> decide

/-- A scanner has scanned a sign, and further signs are to come. -/
structure Behind (s following : Scanner) (depth : Nat) (sign : Sign) (signs : List Sign) : Prop where
  inside : Inside (sign.depthBehind depth) following
  written : Written (sign.depthBehind depth) signs following.cursor.rest
  tokens : following.tokens.map Lexeme.token = sign.tokens.reverse ++ s.tokens.map Lexeme.token
  keyAllowed : sign.allowsKey = true → following.keyAllowed = true
  runs : ∀ fuel, s.run (fuel + sign.steps) = following.run fuel
  shorter : following.cursor.rest.length + sign.steps ≤ s.cursor.rest.length

/-- A sign that is one token is scanned in one step. -/
theorem Ready.behind {next following : Scanner} {gap left : List Char} {sign : Sign}
    {signs : List Sign} {token : Token}
    (hready : Ready s next (depth + 1) gap (sign.chars ++ rest))
    (hplace : s.cursor.rest = gap ++ (sign.chars ++ rest))
    (htoken : next.token = .ok following) (hsteps : sign.steps = 1)
    (htokens : sign.tokens = [token])
    (hpassed : Passed next following (sign.depthBehind depth) left [token])
    (hwritten : Written (sign.depthBehind depth) signs left) (hlength : left.length ≤ rest.length)
    (hkey : sign.allowsKey = true → following.keyAllowed = true) :
    Behind s following depth sign signs := by
  obtain ⟨c, tail, hchars, -⟩ := sign.exists_chars_eq_cons
  have hne : sign.chars ++ rest ≠ [] := by simp [hchars]
  refine ⟨hpassed.inside, ?_, ?_, hkey, ?_, ?_⟩
  · rw [hpassed.rest]
    exact hwritten
  · rw [hpassed.tokens, hready.tokens, htokens]
  · intro fuel
    rw [hsteps]
    exact hready.goesOn fuel following hne htoken
  · rw [hpassed.rest, hsteps, hplace, hchars]
    simp only [List.length_append, List.length_cons]
    omega

/-- What stands in front of the colon of a key may stand in a YAML text, on one line. -/
theorem isAllowed_of_mem_key (k : Key) :
    ∀ c ∈ Notation.quoted k.glyphs ++ k.gap, isAllowed c = true ∧ isBreak c = false := by
  intro c hc
  rcases List.mem_append.mp hc with hquoted | hgap
  · exact isAllowed_of_mem_quoted k.glyphs c hquoted
  · have hblank := k.blank c hgap
    simp only [isBlank, Bool.or_eq_true, decide_eq_true_eq] at hblank
    rcases hblank with rfl | rfl <;> decide

/-- A key is scanned in two steps.  At its colon the place where it began is still known, since the
colon stands on the same line and not too far from it. -/
theorem Ready.exists_behind_key {next : Scanner} {gap : List Char} {k : Key} {signs : List Sign}
    (hready : Ready s next (depth + 1) gap ((Sign.key k).chars ++ rest))
    (hplace : s.cursor.rest = gap ++ ((Sign.key k).chars ++ rest)) (hallowed : s.keyAllowed = true)
    (hwritten : Written (depth + 1) signs rest) :
    ∃ following, Behind s following depth (.key k) signs := by
  have hstart : next.cursor.rest = Notation.quoted k.glyphs ++ (k.gap ++ ':' :: rest) := by
    rw [hready.cursor]
    simp [Sign.chars]
  obtain ⟨middle, lexeme, hquoted, htokens, hpassed, hmark, hcount, hpending⟩ :=
    exists_quoted hready.inside k.glyphs hstart
  have hkey := hpending ((hready.keyAllowed (Nat.succ_pos depth)).trans hallowed)
  have hcolon : BeginsToken (':' :: rest) := beginsToken_cons (by decide) rest
  obtain ⟨last, hlast⟩ := exists_ready hpassed.inside (k.isGap depth) hcolon hpassed.rest
  have hplaces : last.cursor.mark =
      next.cursor.mark.afterAll (Notation.quoted k.glyphs ++ k.gap) := by
    rw [hlast.cursor, hmark]
    simp [Mark.afterAll]
  have hfresh : isStale ⟨false, next.count, next.cursor.mark⟩ last.cursor.mark = false := by
    have hshort := k.short
    have hline := fun c hc => (isAllowed_of_mem_key k c hc).2
    rw [hplaces, Mark.afterAll_of_isBreak_eq_false hline]
    simp only [isStale, Nat.lt_irrefl, decide_false, Bool.false_or, decide_eq_false_iff_not]
    omega
  have hlexeme : lexeme.token = .scalar .doubleQuoted (textOf k.glyphs) := by
    have hfound := hpassed.tokens
    rw [htokens] at hfound
    simpa using hfound
  obtain ⟨following, hvalue, hinside, hrest, hfound⟩ := exists_value hlast.inside
    (hlast.pending _ hkey hfresh) (hlast.count.trans hcount) (hlast.tokens.trans htokens)
    (by rw [hlast.cursor])
  refine ⟨following, hinside, ?_, ?_, by simp [Sign.allowsKey], ?_, ?_⟩
  · rw [hrest]
    exact hwritten
  · rw [hfound, hlexeme, hready.tokens]
    rfl
  · intro fuel
    have hne : (Sign.key k).chars ++ rest ≠ [] := by simp [Sign.chars, Notation.quoted]
    have hfirst := hready.goesOn (fuel + 1) middle hne ((token_quoted hstart).trans hquoted)
    have hsecond := hlast.goesOn fuel following (by simp)
      ((token_value hlast.inside (by rw [hlast.cursor])).trans hvalue)
    exact hfirst.trans hsecond
  · rw [hrest, hplace]
    simp only [Sign.chars, Sign.steps, Notation.quoted, List.length_append, List.length_cons]
    omega

theorem exists_behind (hs : Inside (depth + 1) s) {sign : Sign} {signs : List Sign}
    (hwritten : Written (depth + 1) (sign :: signs) s.cursor.rest)
    (hword : ∀ w, sign = .word w → Separated signs)
    (hkey : ∀ k, sign = .key k → s.keyAllowed = true) :
    ∃ following, Behind s following depth sign signs := by
  generalize hplace : s.cursor.rest = chars at hwritten
  cases hwritten with
  | @cons _ gap _ _ rest hgap hrest =>
      obtain ⟨next, hready⟩ := exists_ready hs hgap (beginsToken_chars sign rest) hplace
      have hchars : next.cursor.rest = sign.chars ++ rest := by rw [hready.cursor]
      cases sign with
      | openArray =>
          obtain ⟨following, hopen, hpassed, hallowed⟩ :=
            exists_openFlow hready.inside .flowSequenceStart hchars
          exact ⟨following, hready.behind hplace ((token_openArray hchars).trans hopen) rfl rfl hpassed
            hrest (Nat.le_refl _) fun _ => hallowed⟩
      | openObject =>
          obtain ⟨following, hopen, hpassed, hallowed⟩ :=
            exists_openFlow hready.inside .flowMappingStart hchars
          exact ⟨following, hready.behind hplace ((token_openObject hchars).trans hopen) rfl rfl hpassed
            hrest (Nat.le_refl _) fun _ => hallowed⟩
      | closeArray =>
          obtain ⟨following, hclose, hpassed⟩ :=
            exists_closeFlow hready.inside .flowSequenceEnd hchars
          exact ⟨following, hready.behind hplace ((token_closeArray hchars).trans hclose) rfl rfl
            hpassed hrest (Nat.le_refl _) (by simp [Sign.allowsKey])⟩
      | closeObject =>
          obtain ⟨following, hclose, hpassed⟩ :=
            exists_closeFlow hready.inside .flowMappingEnd hchars
          exact ⟨following, hready.behind hplace ((token_closeObject hchars).trans hclose) rfl rfl
            hpassed hrest (Nat.le_refl _) (by simp [Sign.allowsKey])⟩
      | comma =>
          obtain ⟨following, hcomma, hpassed, hallowed⟩ := exists_comma hready.inside hchars
          exact ⟨following, hready.behind hplace ((token_comma hchars).trans hcomma) rfl rfl hpassed
            hrest (Nat.le_refl _) fun _ => hallowed⟩
      | text glyphs =>
          obtain ⟨following, lexeme, hquoted, -, hpassed, -⟩ :=
            exists_quoted hready.inside glyphs hchars
          exact ⟨following, hready.behind hplace ((token_quoted hchars).trans hquoted) rfl rfl hpassed
            hrest (Nat.le_refl _) (by simp [Sign.allowsKey])⟩
      | word w =>
          -- A plain scalar also takes in the gap behind it, up to the separator.
          obtain ⟨sep, more, rfl, hsep⟩ := hword w rfl
          cases hrest with
          | @cons _ gap' _ _ rest' hgap' hrest' =>
              obtain ⟨c, hc, hindicator, hspacing⟩ := exists_separator sep hsep
              rw [hc, List.cons_append, List.nil_append] at hchars
              have hbehind : next.cursor.rest = w.chars ++ (gap' ++ c :: rest') := by
                simpa [Sign.chars, hc] using hchars
              obtain ⟨following, hplain, hpassed⟩ := exists_plain hready.inside
                (isWordChar_of_mem_chars w) (fun d hd => isSpacing_of_isBlank (hgap' d hd).1)
                hindicator hspacing hbehind
              have hwritten : Written (depth + 1) (sep :: more) (c :: rest') := by
                have hempty : IsGap (depth + 1) [] := fun d hd => absurd hd (by simp)
                have hsigns := Written.cons hempty hrest'
                rwa [hc] at hsigns
              have hlength : (c :: rest').length ≤ (gap' ++ (sep.chars ++ rest')).length := by
                simp [hc]
              exact ⟨following, hready.behind hplace ((token_word w hbehind).trans hplain) rfl rfl
                hpassed hwritten hlength (by simp [Sign.allowsKey])⟩
      | key k => exact hready.exists_behind_key hplace (hkey k rfl) hrest

/-! ## Whole texts -/

theorem atMargin_eq (hs : Inside depth s) :
    s.atMargin = .ok { s with pending? := none, keyAllowed := false } := by
  simp only [atMargin, unindentTo_eq_self hs, exists_dropKey hs, bind, Except.bind, pure,
    Except.pure]

theorem exists_finish (hs : Inside depth s) :
    ∃ last, s.finish = .ok last ∧
      last.tokens.map Lexeme.token = .streamEnd :: s.tokens.map Lexeme.token := by
  let place : Mark :=
    if s.cursor.mark.column = 0 then s.cursor.mark
    else ⟨s.cursor.mark.index, s.cursor.mark.line + 1, 0⟩
  have hplace : Inside depth { s with cursor := ⟨place, []⟩ } :=
    ⟨hs.flowDepth, hs.indent, hs.outer, hs.pending, hs.outerPending, hs.length⟩
  let margin : Scanner := { s with cursor := ⟨place, []⟩, pending? := none, keyAllowed := false }
  have hmargin : ({ s with cursor := ⟨place, []⟩ } : Scanner).atMargin = .ok margin :=
    atMargin_eq hplace
  have hfinish : s.finish = .ok (margin.push .streamEnd place place) := by
    simp only [place] at hmargin
    simp only [finish, hmargin, bind, Except.bind, pure, Except.pure, place]
  exact ⟨_, hfinish, rfl⟩

/-- A word is written in front of further signs, as the bracket around it is still open. -/
theorem separated_of_follow {w : Word} {signs : List Sign} {chars : List Char}
    (hwritten : Written (depth + 1) signs chars) (hfollow : Follow (.word w) signs) :
    Separated signs := by
  cases hwritten with
  | cons _ _ => exact ⟨_, _, rfl, hfollow.1.1 w rfl⟩

/-- Inside of brackets a text is scanned to the tokens of the signs that it is written with. -/
theorem exists_run {signs : List Sign} {previous : Sign} {fuel : Nat} (hs : Inside depth s)
    (hwritten : Written depth signs s.cursor.rest) (hfollow : Follow previous signs)
    (hkey : previous.allowsKey = true → s.keyAllowed = true) (hfuel : s.cursor.rest.length < fuel) :
    ∃ last, s.run fuel = (last, none) ∧ last.tokens.map Lexeme.token =
      .streamEnd :: ((signs.flatMap Sign.tokens).reverse ++ s.tokens.map Lexeme.token) := by
  induction signs generalizing s depth previous fuel with
  | nil =>
      generalize hplace : s.cursor.rest = gap at hwritten
      cases hwritten with
      | nil hgap =>
          have hend : BeginsToken [] := by simp [BeginsToken]
          obtain ⟨next, hready⟩ := exists_ready hs hgap hend (by rw [hplace, List.append_nil])
          obtain ⟨last, hfinish, htokens⟩ := exists_finish hready.inside
          obtain ⟨fuel, rfl⟩ : ∃ more, fuel = more + 1 := ⟨fuel - 1, by omega⟩
          refine ⟨last, hready.ends fuel last rfl hfinish, ?_⟩
          rw [htokens, hready.tokens]
          rfl
  | cons sign signs ih =>
      obtain ⟨⟨-, hplace⟩, hrest⟩ := hfollow
      cases depth with
      | zero => nomatch hwritten
      | succ depth =>
          have hbehind := hwritten.of_cons
          have hword : ∀ w, sign = .word w → Separated signs := by
            rintro w rfl
            obtain ⟨rest, hbehind⟩ := hbehind
            exact separated_of_follow hbehind hrest
          obtain ⟨following, hpassed⟩ :=
            exists_behind hs hwritten hword fun k hk => hkey (hplace k hk)
          -- No sign takes more steps than it has characters, so the fuel lasts for the rest.
          have hshorter := hpassed.shorter
          obtain ⟨fuel, rfl⟩ : ∃ more, fuel = more + sign.steps := ⟨fuel - sign.steps, by omega⟩
          have hless : following.cursor.rest.length < fuel := by omega
          obtain ⟨last, hrun, htokens⟩ :=
            ih hpassed.inside hpassed.written hrest hpassed.keyAllowed hless
          refine ⟨last, (hpassed.runs fuel).trans hrun, ?_⟩
          rw [htokens, hpassed.tokens]
          simp

end ResourceTemplate.Yaml.Scanner

import ResourceTemplate.Proofs.Expression.Generation

/-!
# Directives

A directive is anything that looks like a block: a text in brackets followed by a text in braces,
with no bracket and no brace inside.  A block is a directive in the characters of blocks, and only
blocks are expanded.  Such a directive gives way to characters that are drawn, or the expression has
no value.

Every other directive is kept as it is written, whatever is wrong with it, and nothing is told.
What stands in front of a directive and behind it comes to what it would come to alone.
-/

namespace ResourceTemplate.Expression

/-- Whether a character is one of the marks around the body and the length of a block. -/
def isMark (c : Char) : Bool := c = '[' || c = ']' || c = '\x7b' || c = '\x7d'

/-- Two texts that are not empty and have no marks, written as a block is. -/
structure Block.IsDirective (b : Block) : Prop where
  body_nonempty : b.body ≠ []
  body_chars : ∀ c ∈ b.body, isMark c = false
  length_nonempty : b.length ≠ []
  length_chars : ∀ c ∈ b.length, isMark c = false

/-- What a test lets pass is no mark when the test rejects the four marks. -/
theorem isMark_eq_false {isOf : Char → Bool} (hopen : isOf '[' = false) (hclose : isOf ']' = false)
    (hbegin : isOf '\x7b' = false) (hend : isOf '\x7d' = false) {c : Char} (h : isOf c = true) :
    isMark c = false := by
  rw [← Bool.not_eq_true]
  simp only [isMark, Bool.or_eq_true, decide_eq_true_eq]
  rintro (((rfl | rfl) | rfl) | rfl)
  · exact Bool.false_ne_true (hopen.symm.trans h)
  · exact Bool.false_ne_true (hclose.symm.trans h)
  · exact Bool.false_ne_true (hbegin.symm.trans h)
  · exact Bool.false_ne_true (hend.symm.trans h)

/-- A block is a directive. -/
theorem Block.WellFormed.isDirective {b : Block} (h : b.WellFormed) : b.IsDirective where
  body_nonempty := h.body_nonempty
  body_chars := fun c hc => isMark_eq_false rfl rfl rfl rfl (h.body_chars c hc)
  length_nonempty := h.length_nonempty
  length_chars := fun c hc => isMark_eq_false rfl rfl rfl rfl (h.length_chars c hc)

/-- Two directives at the start of a text are the same. -/
theorem Block.IsDirective.eq_of_append {b other : Block} (hb : b.IsDirective)
    (hother : other.IsDirective) {behind rest : List Char}
    (h : b.chars ++ behind = other.chars ++ rest) : b = other := by
  let isText : Char → Bool := fun c => !isMark c
  simp only [Block.chars_eq, List.cons_append, List.append_assoc, List.cons.injEq, true_and] at h
  have htext : ∀ {chars : List Char}, (∀ c ∈ chars, isMark c = false) →
    ∀ c ∈ chars, isText c = true :=
    fun hchars c hc => by simp [isText, hchars c hc]
  have hbracket : isText ']' = false := by decide
  have hbrace : isText '\x7d' = false := by decide
  obtain ⟨hbody, h⟩ := Text.eq_of_append_mark hbracket (htext hb.body_chars)
    (htext hother.body_chars) h
  obtain ⟨hlength, -⟩ := Text.eq_of_append_mark hbrace (htext hb.length_chars)
    (htext hother.length_chars) (List.cons.inj h).2
  cases b
  cases other
  exact congr (congrArg Block.mk hbody) hlength

theorem Block.IsDirective.bracket_notMem {b : Block} (h : b.IsDirective) : '[' ∉ b.chars.tail := by
  have hbody : '[' ∉ b.body := fun hmem => absurd (h.body_chars '[' hmem) (by decide)
  have hlength : '[' ∉ b.length := fun hmem => absurd (h.length_chars '[' hmem) (by decide)
  simp [b.chars_eq, hbody, hlength]

/-! ## Pieces around a directive -/

theorem pieces_cons_of_none {c : Char} {rest : List Char} (h : blockAt? (c :: rest) = none) :
    pieces (c :: rest) = .kept c :: pieces rest := by
  have hleads : (Piece.kept c).Leads rest := h
  exact pieces_written_append hleads

/-- No block begins where there is no bracket. -/
theorem blockAt?_of_ne {c : Char} (rest : List Char) (h : c ≠ '[') :
    blockAt? (c :: rest) = none := by
  rw [Option.eq_none_iff_forall_ne_some]
  intro b hfound
  obtain ⟨behind, hbehind⟩ := (blockAt?_eq_some.mp hfound).2
  rw [b.chars_eq] at hbehind
  exact h (List.cons.inj hbehind).1.symm

/-- A text without brackets is kept, whatever stands behind it. -/
theorem pieces_append_of_bracket_notMem {text : List Char} (h : '[' ∉ text) (behind : List Char) :
    pieces (text ++ behind) = text.map .kept ++ pieces behind := by
  induction text with
  | nil => rfl
  | cons c text ih =>
      have hc : c ≠ '[' := fun heq => h (heq ▸ List.mem_cons_self)
      have htext : '[' ∉ text := fun hmem => h (List.mem_cons_of_mem c hmem)
      rw [List.cons_append, pieces_cons_of_none (blockAt?_of_ne _ hc), ih htext]
      rfl

/-- A bracket cuts a text: no block in front of it reaches beyond it. -/
theorem pieces_append_bracket (front rest : List Char) :
    pieces (front ++ '[' :: rest) = pieces front ++ pieces ('[' :: rest) := by
  induction front using pieces_induction with
  | nil => rfl
  | step piece front hleads ih =>
      have hleads' : piece.Leads (front ++ '[' :: rest) := by
        cases piece with
        | block b => exact hleads
        | kept c =>
            have hnone : blockAt? (c :: front) = none := hleads
            refine Option.eq_none_iff_forall_ne_some.mpr fun b hfound => ?_
            -- A block found here would end before the bracket and have been found without it.
            obtain ⟨hb, hbegins⟩ := blockAt?_eq_some.mp hfound
            have hend : b.chars.length ≤ (c :: front).length := by
              have hbracket : '[' :: rest <+: (c :: front ++ '[' :: rest).drop (c :: front).length := by
                simp
              have hpositive : 0 < (c :: front).length := Nat.succ_pos _
              have hle : 0 + b.chars.length ≤ (c :: front).length :=
                Text.le_of_marked hbegins hbracket hb.bracket_notMem hpositive
              omega
            have hwithin : b.chars <+: c :: front :=
              List.prefix_of_prefix_length_le hbegins (List.prefix_append _ _) hend
            exact absurd (hnone.symm.trans (blockAt?_eq_some.mpr ⟨hb, hwithin⟩)) (by simp)
      rw [List.append_assoc, pieces_written_append hleads', pieces_written_append hleads, ih]
      rfl

/-- What the directive at the start of a text is taken for: a block, or characters to be kept. -/
inductive Block.TakenFor (b : Block) : List Piece → Prop
  | block (h : b.WellFormed) : b.TakenFor [.block b]
  | kept (h : ¬b.WellFormed) : b.TakenFor (b.chars.map .kept)

theorem Block.IsDirective.pieces_append {b : Block} (hb : b.IsDirective) {ps : List Piece}
    (h : b.TakenFor ps) (behind : List Char) :
    pieces (b.chars ++ behind) = ps ++ pieces behind := by
  cases h with
  | block h =>
      have hleads : (Piece.block b).Leads behind := h
      exact pieces_written_append hleads
  | kept h =>
      obtain ⟨tail, htail⟩ : ∃ tail, b.chars = '[' :: tail := ⟨_, b.chars_eq⟩
      have hnone : blockAt? (b.chars ++ behind) = none := by
        refine Option.eq_none_iff_forall_ne_some.mpr fun other hfound => ?_
        obtain ⟨hother, rest, hrest⟩ := blockAt?_eq_some.mp hfound
        exact h (hother.isDirective.eq_of_append hb hrest ▸ hother)
      have hbracket := hb.bracket_notMem
      rw [htail, List.cons_append] at hnone
      rw [htail, List.tail_cons] at hbracket
      rw [htail, List.cons_append, pieces_cons_of_none hnone,
        pieces_append_of_bracket_notMem hbracket]
      rfl

/-- A directive is taken for the same in every text. -/
theorem Block.IsDirective.pieces_around {b : Block} (hb : b.IsDirective) {ps : List Piece}
    (h : b.TakenFor ps) (front behind : List Char) :
    pieces (front ++ (b.chars ++ behind)) = pieces front ++ (ps ++ pieces behind) := by
  rw [← hb.pieces_append h behind, b.chars_eq]
  exact pieces_append_bracket front _

/-! ## What becomes of a directive -/

section Drawing

variable {Source : Type} [Drawer Source]

/-- What stands in the place of a directive when the value is put together: characters of its
alphabet, as many as its length says and each drawn for itself, or the directive as it is written,
for which nothing is drawn. -/
inductive Block.Becomes (b : Block) : Source → List Char → Source → Prop
  | replaced {symbols chars : List Char} {draws : List Draw} {source next : Source} (h : b.WellFormed)
      (hsymbols : alphabet b.body = .ok symbols) (hcount : IsCount b.length draws.length)
      (hdraws : Draws source draws next) (hchars : List.Forall₂ (Draw.PointsAt symbols) draws chars) :
      b.Becomes source chars next
  | kept (source : Source) (h : ¬b.WellFormed) : b.Becomes source b.chars source

/-- Pieces one after the other: what the first ones come to, followed by what the others come to in
the state that is left. -/
theorem expand_append (first second : List Piece) (source : Source) :
    expand (first ++ second) source =
      match expand first source with
      | (.error e, middle) => (.error e, middle)
      | (.ok before, middle) =>
          ((expand second middle).1.map (before ++ ·), (expand second middle).2) := by
  induction first generalizing source with
  | nil =>
      rcases hsecond : expand second source with ⟨outcome, last⟩
      cases outcome <;> simp [expand, hsecond, Except.map]
  | cons piece first ih =>
      cases piece with
      | kept c =>
          simp only [List.cons_append, expand, ih]
          rcases expand first source with ⟨outcome, middle⟩
          cases outcome with
          | error e => rfl
          | ok before => cases hsecond : (expand second middle).1 <;> simp [hsecond, Except.map]
      | block b =>
          simp only [List.cons_append, expand]
          cases b.demand with
          | error e => rfl
          | ok demand =>
              simp only [ih]
              rcases expand first (drawChars demand.1 demand.2 source).2 with ⟨outcome, middle⟩
              cases outcome with
              | error e => rfl
              | ok before => cases hsecond : (expand second middle).1 <;> simp [hsecond, Except.map]

theorem expand_append_eq_ok {first second : List Piece} {source last : Source} {value : List Char} :
    expand (first ++ second) source = (.ok value, last) ↔
      ∃ before after middle, expand first source = (.ok before, middle) ∧
        expand second middle = (.ok after, last) ∧ before ++ after = value := by
  rw [expand_append]
  rcases expand first source with ⟨outcome, middle⟩
  cases outcome with
  | error e => simp
  | ok before =>
      simp only [map_fst_eq_ok]
      constructor
      · rintro ⟨after, hafter, hvalue⟩
        exact ⟨before, after, middle, rfl, hafter, hvalue⟩
      · rintro ⟨_, after, _, heq, hafter, hvalue⟩
        obtain ⟨hbefore, rfl⟩ := Prod.mk.inj heq
        obtain rfl := Except.ok.inj hbefore
        exact ⟨after, hafter, hvalue⟩

/-- What is kept comes to itself, and nothing is drawn for it. -/
theorem expand_kept (text : List Char) (source : Source) :
    expand (text.map .kept) source = (.ok text, source) := by
  induction text with
  | nil => rfl
  | cons c text ih => simp only [List.map_cons, expand, ih, Except.map]

theorem expand_takenFor {b : Block} {ps : List Piece} (h : b.TakenFor ps) {source next : Source}
    {chars : List Char} : expand ps source = (.ok chars, next) ↔ b.Becomes source chars next := by
  cases h with
  | block h =>
      rw [expand_cons_eq_ok]
      constructor
      · rintro ⟨part, hpiece, hsound, middle, tail, hdraws, hrest, rfl⟩
        cases hsound with
        | kept => exact absurd hpiece (by simp)
        | block hsymbols hcount hchars =>
            obtain rfl := Piece.block.inj hpiece
            obtain ⟨htail, rfl⟩ := Prod.mk.inj hrest
            obtain rfl := Except.ok.inj htail
            rw [List.append_nil]
            exact .replaced h hsymbols hcount hdraws hchars
      · rintro (⟨-, hsymbols, hcount, hdraws, hchars⟩ | ⟨-, hkept⟩)
        · exact ⟨_, rfl, .block hsymbols hcount hchars, next, [], hdraws, rfl, List.append_nil chars⟩
        · exact absurd h hkept
  | kept h =>
      rw [expand_kept]
      constructor
      · intro heq
        obtain ⟨hchars, rfl⟩ := Prod.mk.inj heq
        obtain rfl := Except.ok.inj hchars
        exact .kept source h
      · rintro (⟨hreplaced, -⟩ | -)
        · exact absurd hreplaced h
        · rfl

/-- A block is at fault when its body does not list items or its length is no count. -/
theorem Block.exists_fault {b : Block}
    (h : ¬Listed b.body ∨ ∀ count, ¬IsCount b.length count) : ∃ e, b.Fault e := by
  by_cases hlisted : Listed b.body
  · exact ⟨_, .length hlisted (h.resolve_left (not_not.mpr hlisted))⟩
  · cases hbody : alphabet b.body with
    | ok symbols => exact absurd (listed_iff.mpr ⟨symbols, hbody⟩) hlisted
    | error e => exact ⟨e, .body hlisted hbody⟩

/-- What becomes of a directive does not depend on where it stands.  In the characters of blocks it
gives way to characters that are drawn; if it is at fault then, the expression has no value, and
unless something is told of what stands in front, its fault is told.  In any other characters it is
kept as it is written.  What stands around it comes to what it comes to alone. -/
theorem directives_are_replaced_or_kept {b : Block} (hb : b.IsDirective) (front behind : String)
    (source : Source) :
    let expression := front ++ String.ofList b.chars ++ behind
    (b.WellFormed → (¬Listed b.body ∨ ∀ count, ¬IsCount b.length count) →
      ∃ e, b.Fault e ∧ ((generate expression source).1 = .error e ∨
        ∃ told, (generate front source).1 = .error told ∧
          (generate expression source).1 = .error told)) ∧
    ∀ value last, generate expression source = (.ok value, last) ↔
      ∃ before chars after started stopped, generate front source = (.ok before, started) ∧
        b.Becomes started chars stopped ∧ generate behind stopped = (.ok after, last) ∧
        value = before ++ String.ofList chars ++ after := by
  intro expression
  have hpieces : ∀ {ps}, b.TakenFor ps →
      pieces expression.toList = pieces front.toList ++ (ps ++ pieces behind.toList) := by
    intro ps hps
    rw [← hb.pieces_around hps]
    simp [expression]
  constructor
  · intro h hinvalid
    obtain ⟨e, hfault⟩ := Block.exists_fault hinvalid
    refine ⟨e, hfault, ?_⟩
    simp only [generate, map_eq_error]
    rw [hpieces (.block h), expand_append]
    rcases expand (pieces front.toList) source with ⟨outcome, started⟩
    cases outcome with
    | error told => exact Or.inr ⟨told, rfl, rfl⟩
    | ok before =>
        left
        simp only [map_eq_error, List.singleton_append, expand, Block.demand_eq_error.mpr hfault]
  · intro value last
    obtain ⟨ps, hps⟩ : ∃ ps, b.TakenFor ps := by
      by_cases h : b.WellFormed
      · exact ⟨_, .block h⟩
      · exact ⟨_, .kept h⟩
    simp only [generate, map_fst_eq_ok]
    rw [hpieces hps]
    simp only [expand_append_eq_ok, expand_takenFor hps]
    constructor
    · rintro ⟨_, ⟨before, _, started, hbefore, ⟨chars, after, stopped, hchars, hafter, rfl⟩, rfl⟩, rfl⟩
      exact ⟨_, chars, _, started, stopped, ⟨before, hbefore, rfl⟩, hchars, ⟨after, hafter, rfl⟩,
        by simp [String.ofList_append, String.append_assoc]⟩
    · rintro ⟨_, chars, _, started, stopped, ⟨before, hbefore, rfl⟩, hchars, ⟨after, hafter, rfl⟩, rfl⟩
      exact ⟨_, ⟨before, _, started, hbefore, ⟨chars, after, stopped, hchars, hafter, rfl⟩, rfl⟩,
        by simp [String.ofList_append, String.append_assoc]⟩

end Drawing

/-- A body of a span and a length below zero. -/
def negativeLength : Block := ⟨"a-z".toList, "-1".toList⟩

theorem isDirective_negativeLength : negativeLength.IsDirective where
  body_nonempty := by decide
  body_chars := by simp [negativeLength, isMark]
  length_nonempty := by decide
  length_chars := by simp [negativeLength, isMark]

theorem not_wellFormed_negativeLength : ¬negativeLength.WellFormed := fun h =>
  absurd (h.length_chars '-' (by decide)) (by decide)

/-- Between two blocks the directive is kept, and no word is taken for it. -/
theorem directives_are_replaced_or_kept_negativeLength :
    negativeLength.IsDirective ∧
      generate ("[a]\x7b1\x7d" ++ String.ofList negativeLength.chars ++ "[b]\x7b1\x7d")
        (⟨[0, 0], 0⟩ : WordSource) =
          (.ok ("a" ++ String.ofList negativeLength.chars ++ "b"), ⟨[], 0⟩) := by
  refine ⟨isDirective_negativeLength, ?_⟩
  refine ((directives_are_replaced_or_kept isDirective_negativeLength _ _ _).2 _ _).mpr
    ⟨"a", negativeLength.chars, "b", ⟨[0], 0⟩, ⟨[0], 0⟩, ?_,
      .kept _ not_wellFormed_negativeLength, ?_, rfl⟩
  · rfl
  · rfl

/-- A length that is no count is not told when it is not written in word characters: the directive
stays in the value as it is. -/
theorem negative_length_is_kept :
    negativeLength.IsDirective ∧ (∀ count, ¬IsCount negativeLength.length count) ∧
      String.ofList negativeLength.chars = "[a-z]\x7b-1\x7d" ∧
      ∀ source : WordSource, generate "[a-z]\x7b-1\x7d" source = (.ok "[a-z]\x7b-1\x7d", source) := by
  have htext : String.ofList negativeLength.chars = "[a-z]\x7b-1\x7d" := by decide
  refine ⟨isDirective_negativeLength, fun count hcount => ?_, htext, fun source => ?_⟩
  · exact absurd (hcount.digits '-' (by decide)) (by decide)
  · have hpieces :=
      isDirective_negativeLength.pieces_append (.kept not_wellFormed_negativeLength) []
    rw [List.append_nil, show pieces [] = [] from rfl, List.append_nil] at hpieces
    rw [← htext, generate, String.toList_ofList, hpieces, expand_kept]
    rfl

end ResourceTemplate.Expression

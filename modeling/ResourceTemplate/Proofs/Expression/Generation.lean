import Mathlib.Data.List.Forall2
import ResourceTemplate.Expression.Generator
import ResourceTemplate.Proofs.Expression.Alphabet
import ResourceTemplate.Proofs.Expression.Block

/-!
# What an expression comes to

Whether an expression has a value is a matter of its blocks alone, and not of the source that the
characters are drawn from: the leftmost block whose body lists no items or whose length is no count
is told, and if there is none, there is a value.

The value is put together from the pieces of the expression.  A kept character stands for itself,
and a block gives way to as many characters of its alphabet as its length says, one for each index
drawn.  The indices are drawn one after another through the whole expression, each below the size of
the alphabet that it points into, and nothing else is drawn.
-/

namespace ResourceTemplate.Expression

/-! ## What is wrong with a block -/

/-- A word of decimal digits is a number from 1 to 255. -/
structure IsCount (word : List Char) (count : Nat) : Prop where
  digits : ∀ c ∈ word, c.isDigit = true
  value : Nat.ofDigitChars 10 word 0 = count
  pos : 1 ≤ count
  le : count ≤ 255

/-- Why a block cannot be expanded: its body does not list items; or it does, and its length is no
count. -/
inductive Block.Fault (b : Block) : GeneratorError → Prop
  | body {e : GeneratorError} (hbody : ¬Listed b.body) (h : alphabet b.body = .error e) : b.Fault e
  | length (hbody : Listed b.body) (h : ∀ count, ¬IsCount b.length count) :
      b.Fault (.badLength (String.ofList b.length))

theorem isCount_iff {word : List Char} {count : Nat} : IsCount word count ↔
    decimalValue word = count ∧
      (word.all Char.isDigit && 1 ≤ count && count ≤ maxLength) = true := by
  have hvalue : decimalValue word = Nat.ofDigitChars 10 word 0 := by
    simp only [decimalValue, Nat.ofDigitChars, Nat.mul_comm]
  rw [hvalue]
  simp only [Bool.and_eq_true, List.all_eq_true, decide_eq_true_eq]
  exact ⟨fun h => ⟨h.value, ⟨h.digits, h.pos⟩, h.le⟩,
    fun ⟨hvalue, ⟨hdigits, hpos⟩, hle⟩ => ⟨hdigits, hvalue, hpos, hle⟩⟩

theorem readLength_eq_ok {word : List Char} {count : Nat} :
    readLength word = .ok count ↔ IsCount word count := by
  rw [isCount_iff, readLength]
  split
  next h =>
    rw [Except.ok.injEq]
    exact ⟨fun heq => ⟨heq, heq ▸ h⟩, fun heq => heq.1⟩
  next h => exact iff_of_false (by simp) fun heq => h (heq.1 ▸ heq.2)

theorem readLength_eq_error {word : List Char} {e : GeneratorError} :
    readLength word = .error e ↔
      (∀ count, ¬IsCount word count) ∧ e = .badLength (String.ofList word) := by
  cases hread : readLength word with
  | ok count =>
      refine iff_of_false (by simp) fun h => h.1 count (readLength_eq_ok.mp hread)
  | error told =>
      have htold : told = .badLength (String.ofList word) := by
        unfold readLength at hread
        dsimp only at hread
        split at hread
        · exact absurd hread (by simp)
        · exact (Except.error.inj hread).symm
      have hnone : ∀ count, ¬IsCount word count := fun count hcount => by
        rw [readLength_eq_ok.mpr hcount] at hread
        exact absurd hread (by simp)
      rw [htold, Except.error.injEq]
      exact ⟨fun h => ⟨hnone, h.symm⟩, fun h => h.2.symm⟩

theorem Block.demand_eq_ok {b : Block} {symbols : List Char} {count : Nat} :
    b.demand = .ok (symbols, count) ↔ alphabet b.body = .ok symbols ∧ IsCount b.length count := by
  rw [← readLength_eq_ok]
  constructor
  · intro h
    obtain ⟨found, hsymbols, h⟩ := exists_of_bind_eq_ok h
    obtain ⟨number, hcount, h⟩ := exists_of_bind_eq_ok h
    obtain ⟨rfl, rfl⟩ := Prod.mk.inj (Except.ok.inj h)
    exact ⟨hsymbols, hcount⟩
  · rintro ⟨hsymbols, hcount⟩
    rw [demand, hsymbols, hcount]
    rfl

theorem Block.demand_eq_error {b : Block} {e : GeneratorError} :
    b.demand = .error e ↔ b.Fault e := by
  rw [demand, bind_eq_error]
  constructor
  · rintro (hbody | ⟨symbols, hsymbols, h⟩)
    · refine .body (fun hlisted => ?_) hbody
      obtain ⟨symbols, hsymbols⟩ := listed_iff.mp hlisted
      exact absurd (hbody.symm.trans hsymbols) (by simp)
    · rcases bind_eq_error.mp h with hlength | ⟨count, -, h⟩
      · obtain ⟨hnone, rfl⟩ := readLength_eq_error.mp hlength
        exact .length (listed_iff.mpr ⟨symbols, hsymbols⟩) hnone
      · exact absurd h (by simp [pure, Except.pure])
  · rintro (⟨-, hbody⟩ | ⟨hlisted, hnone⟩)
    · exact Or.inl hbody
    · obtain ⟨symbols, hsymbols⟩ := listed_iff.mp hlisted
      exact Or.inr ⟨symbols, hsymbols,
        bind_eq_error.mpr (Or.inl (readLength_eq_error.mpr ⟨hnone, rfl⟩))⟩

/-! ## The leftmost fault -/

/-- What is wrong with the leftmost block of a text that cannot be expanded. -/
def FirstFault (text : List Char) (e : GeneratorError) : Prop :=
  ∃ b start, StandsAt text b start ∧ b.Fault e ∧
    ∀ other earlier, earlier < start → StandsAt text other earlier → ∀ e', ¬other.Fault e'

theorem exists_firstFault {text : List Char} {b : Block} {start : Nat} {e : GeneratorError}
    (hstands : StandsAt text b start) (hfault : b.Fault e) : ∃ told, FirstFault text told := by
  induction start using Nat.strongRecOn generalizing b e with
  | ind start ih =>
      by_cases hfirst : ∀ other earlier, earlier < start → StandsAt text other earlier →
          ∀ e', ¬other.Fault e'
      · exact ⟨e, b, start, hstands, hfault, hfirst⟩
      · simp only [not_forall, not_not] at hfirst
        obtain ⟨other, earlier, hlt, hearlier, told, htold⟩ := hfirst
        exact ih earlier hlt hearlier htold

/-- The leftmost fault is that of the first piece, or if there is none the leftmost fault behind it.
-/
theorem firstFault_written_append {piece : Piece} {rest : List Char} (h : piece.Leads rest)
    {e : GeneratorError} : FirstFault (piece.written ++ rest) e ↔
      (∃ b, piece = .block b ∧ b.Fault e) ∨
        (∀ b, piece = .block b → ∀ e', ¬b.Fault e') ∧ FirstFault rest e := by
  have hpos := piece.length_written_pos
  constructor
  · rintro ⟨b, start, hstands, hfault, hfirst⟩
    rcases (standsAt_written_append h).mp hstands with ⟨hpiece, -⟩ | ⟨later, rfl, hlater⟩
    · exact Or.inl ⟨b, hpiece, hfault⟩
    · refine Or.inr ⟨fun other hother => ?_, b, later, hlater, hfault,
        fun other earlier hlt hother => ?_⟩
      · exact hfirst other 0 (by omega) ((standsAt_written_append h).mpr (Or.inl ⟨hother, rfl⟩))
      · exact hfirst other (piece.written.length + earlier) (by omega)
          ((standsAt_written_append h).mpr (Or.inr ⟨earlier, rfl, hother⟩))
  · rintro (⟨b, hpiece, hfault⟩ | ⟨hpiece, b, later, hlater, hfault, hfirst⟩)
    · exact ⟨b, 0, (standsAt_written_append h).mpr (Or.inl ⟨hpiece, rfl⟩), hfault, by simp⟩
    · refine ⟨b, piece.written.length + later,
        (standsAt_written_append h).mpr (Or.inr ⟨later, rfl, hlater⟩), hfault, ?_⟩
      intro other start hlt hother
      rcases (standsAt_written_append h).mp hother with ⟨hother, -⟩ | ⟨earlier, rfl, hearlier⟩
      · exact hpiece other hother
      · exact hfirst other earlier (by omega) hearlier

/-! ## Draws -/

/-- An index, and the bound below which it was drawn. -/
structure Draw where
  bound : Nat
  index : Nat

/-- A draw points at a character of an alphabet. -/
structure Draw.PointsAt (alphabet : List Char) (draw : Draw) (c : Char) : Prop where
  bound : draw.bound = alphabet.length
  lt : draw.index < alphabet.length
  char : alphabet[draw.index] = c

section Drawing

variable {Source : Type} [Drawer Source]

/-- Indices drawn one after another lead from one state of a source to another. -/
inductive Draws : Source → List Draw → Source → Prop
  | done (source : Source) : Draws source [] source
  | next {bound : Nat} {source last : Source} {rest : List Draw}
      (h : Draws (Drawer.draw bound source).2 rest last) :
      Draws source (⟨bound, (Drawer.draw bound source).1⟩ :: rest) last

theorem draws_append {source last : Source} {first second : List Draw} :
    Draws source (first ++ second) last ↔
      ∃ middle, Draws source first middle ∧ Draws middle second last := by
  induction first generalizing source with
  | nil =>
      constructor
      · exact fun h => ⟨source, .done source, h⟩
      · rintro ⟨middle, hfirst, hsecond⟩
        cases hfirst
        exact hsecond
  | cons draw rest ih =>
      constructor
      · intro h
        cases h with
        | next h =>
            obtain ⟨middle, hfirst, hsecond⟩ := ih.mp h
            exact ⟨middle, .next hfirst, hsecond⟩
      · rintro ⟨middle, hfirst, hsecond⟩
        cases hfirst with
        | next hfirst => exact .next (ih.mpr ⟨middle, hfirst, hsecond⟩)

/-- Characters are drawn by as many draws, each of which points at its character. -/
theorem drawChars_eq {symbols : List Char} (hsymbols : symbols ≠ []) {count : Nat}
    {source last : Source} {chars : List Char} :
    drawChars symbols count source = (chars, last) ↔
      ∃ draws, draws.length = count ∧ Draws source draws last ∧
        List.Forall₂ (Draw.PointsAt symbols) draws chars := by
  induction count generalizing source chars with
  | zero =>
      constructor
      · intro h
        obtain ⟨rfl, rfl⟩ := Prod.mk.inj h
        exact ⟨[], rfl, .done source, .nil⟩
      · rintro ⟨draws, hlength, hdraws, hchars⟩
        obtain rfl := List.length_eq_zero_iff.mp hlength
        cases hdraws
        cases hchars
        rfl
  | succ count ih =>
      have hlt : (Drawer.draw symbols.length source).1 < symbols.length :=
        Drawer.draw_lt (List.length_pos_iff.mpr hsymbols) source
      have hchar : symbols.getD (Drawer.draw symbols.length source).1 '0' =
          symbols[(Drawer.draw symbols.length source).1] := by simp [hlt]
      constructor
      · intro h
        obtain ⟨rfl, rfl⟩ := Prod.mk.inj h
        obtain ⟨draws, hlength, hdraws, hchars⟩ := ih.mp rfl
        exact ⟨_, congrArg (· + 1) hlength, .next hdraws, .cons ⟨rfl, hlt, hchar.symm⟩ hchars⟩
      · rintro ⟨draws, hlength, hdraws, hchars⟩
        cases hdraws with
        | done => exact absurd hlength (by simp)
        | next hdraws =>
            cases hchars with
            | cons hpoints hchars =>
                obtain ⟨rfl, -, rfl⟩ := hpoints
                have hrest := ih.mpr ⟨_, Nat.succ.inj hlength, hdraws, hchars⟩
                simp only [drawChars, hrest, hchar]

/-! ## What becomes of the pieces -/

/-- A piece of an expression, what was drawn for it, and the characters that stand in its place. -/
structure Part where
  piece : Piece
  draws : List Draw
  chars : List Char

/-- A kept character stands for itself.  In the place of a block stand characters of its alphabet,
as many as its length says, and each is pointed at by a draw of its own. -/
inductive Part.Sound : Part → Prop
  | kept (c : Char) : Sound ⟨.kept c, [], [c]⟩
  | block {b : Block} {symbols chars : List Char} {draws : List Draw}
      (hsymbols : alphabet b.body = .ok symbols) (hcount : IsCount b.length draws.length)
      (hchars : List.Forall₂ (Draw.PointsAt symbols) draws chars) : Sound ⟨.block b, draws, chars⟩

theorem map_fst_eq_ok {α β State : Type} {f : α → β} {result : Except GeneratorError α × State}
    {value : β} {last : State} :
    (result.1.map f, result.2) = (.ok value, last) ↔
      ∃ tail, result = (.ok tail, last) ∧ f tail = value := by
  obtain ⟨outcome, state⟩ := result
  cases outcome with
  | error e => simp [Except.map]
  | ok tail => simp [Except.map, and_comm]

/-- What pieces come to is what becomes of the first piece, followed by what the pieces behind it
come to. -/
theorem expand_cons_eq_ok {piece : Piece} {rest : List Piece} {source last : Source}
    {value : List Char} : expand (piece :: rest) source = (.ok value, last) ↔
      ∃ part : Part, part.piece = piece ∧ part.Sound ∧ ∃ middle tail,
        Draws source part.draws middle ∧ expand rest middle = (.ok tail, last) ∧
          part.chars ++ tail = value := by
  cases piece with
  | kept c =>
      simp only [expand]
      rw [map_fst_eq_ok]
      constructor
      · rintro ⟨tail, hrest, rfl⟩
        exact ⟨_, rfl, .kept c, source, tail, .done source, hrest, rfl⟩
      · rintro ⟨part, hpiece, hsound, middle, tail, hdraws, hrest, rfl⟩
        cases hsound with
        | block => exact absurd hpiece (by simp)
        | kept d =>
            obtain rfl := Piece.kept.inj hpiece
            cases hdraws
            exact ⟨tail, hrest, rfl⟩
  | block b =>
      simp only [expand]
      constructor
      · intro h
        split at h
        · exact absurd (Prod.mk.inj h).1 (by simp)
        next demand hdemand =>
          obtain ⟨hsymbols, hcount⟩ := Block.demand_eq_ok.mp hdemand
          obtain ⟨tail, hrest, rfl⟩ := map_fst_eq_ok.mp h
          obtain ⟨draws, hlength, hdraws, hchars⟩ := (drawChars_eq (alphabet_ne_nil hsymbols)).mp
            (rfl : drawChars demand.1 demand.2 source = (_, _))
          exact ⟨_, rfl, .block hsymbols (hlength ▸ hcount) hchars, _, tail, hdraws, hrest, rfl⟩
      · rintro ⟨part, hpiece, hsound, middle, tail, hdraws, hrest, rfl⟩
        cases hsound with
        | kept => exact absurd hpiece (by simp)
        | block hsymbols hcount hchars =>
            obtain rfl := Piece.block.inj hpiece
            have hdrawn := (drawChars_eq (alphabet_ne_nil hsymbols)).mpr ⟨_, rfl, hdraws, hchars⟩
            rw [Block.demand_eq_ok.mpr ⟨hsymbols, hcount⟩]
            dsimp only
            rw [hdrawn]
            exact map_fst_eq_ok.mpr ⟨tail, hrest, rfl⟩

/-- Pieces come to what becomes of each, and draw what is drawn for each. -/
theorem expand_eq_ok {ps : List Piece} {source last : Source} {value : List Char} :
    expand ps source = (.ok value, last) ↔
      ∃ parts : List Part, parts.map Part.piece = ps ∧ (∀ part ∈ parts, part.Sound) ∧
        Draws source (parts.flatMap Part.draws) last ∧ parts.flatMap Part.chars = value := by
  induction ps generalizing source value with
  | nil =>
      constructor
      · intro h
        obtain ⟨hvalue, rfl⟩ := Prod.mk.inj h
        exact ⟨[], rfl, by simp, .done source, Except.ok.inj hvalue⟩
      · rintro ⟨parts, hpieces, -, hdraws, rfl⟩
        obtain rfl := List.map_eq_nil_iff.mp hpieces
        cases hdraws
        rfl
  | cons piece rest ih =>
      rw [expand_cons_eq_ok]
      constructor
      · rintro ⟨part, rfl, hsound, middle, tail, hdraws, hrest, rfl⟩
        obtain ⟨parts, rfl, hparts, hlater, rfl⟩ := ih.mp hrest
        exact ⟨part :: parts, rfl, List.forall_mem_cons.mpr ⟨hsound, hparts⟩,
          draws_append.mpr ⟨middle, hdraws, hlater⟩, List.flatMap_cons⟩
      · rintro ⟨parts, hpieces, hparts, hdraws, rfl⟩
        obtain ⟨part, later, rfl, rfl, rfl⟩ := List.map_eq_cons_iff.mp hpieces
        obtain ⟨hsound, hlater⟩ := List.forall_mem_cons.mp hparts
        rw [List.flatMap_cons] at hdraws
        obtain ⟨middle, hfirst, hbehind⟩ := draws_append.mp hdraws
        exact ⟨part, rfl, hsound, middle, _, hfirst, ih.mpr ⟨later, rfl, hlater, hbehind, rfl⟩,
          List.flatMap_cons.symm⟩

/-- The pieces of a text come to nothing exactly when a block in it is at fault, and what is told is
the leftmost fault.  The source has no part in it. -/
theorem expand_pieces_eq_error {text : List Char} {e : GeneratorError} (source : Source) :
    (expand (pieces text) source).1 = .error e ↔ FirstFault text e := by
  induction text using pieces_induction generalizing source with
  | nil =>
      refine iff_of_false (by simp [pieces, cut, expand]) ?_
      rintro ⟨b, start, ⟨-, hbegins⟩, -⟩
      exact b.chars_ne_nil (by simpa using hbegins)
  | step piece rest hleads ih =>
      rw [pieces_written_append hleads, firstFault_written_append hleads]
      cases piece with
      | kept c => simp [expand, map_eq_error, ih]
      | block b =>
          simp only [expand]
          cases hdemand : b.demand with
          | error told =>
              have hfault := Block.demand_eq_error.mp hdemand
              constructor
              · intro h
                obtain rfl := Except.error.inj h
                exact Or.inl ⟨b, rfl, hfault⟩
              · rintro (⟨other, hother, hfault'⟩ | ⟨hsound, -⟩)
                · obtain rfl := Piece.block.inj hother
                  obtain rfl := Except.error.inj
                    (hdemand.symm.trans (Block.demand_eq_error.mpr hfault'))
                  rfl
                · exact absurd hfault (hsound b rfl told)
          | ok demand =>
              have hsound : ∀ e', ¬b.Fault e' := fun e' hfault => by
                rw [Block.demand_eq_error.mpr hfault] at hdemand
                exact absurd hdemand (by simp)
              simp [map_eq_error, ih, hsound]

/-- Blocks do not overlap.  An expression has a value unless a block in it is at fault; what is told
then is the leftmost fault, whatever the source.  The value keeps the text between the blocks, and
in the place of each block stand as many characters of its alphabet as its length says, drawn one by
one from the first block to the last. -/
theorem blocks_are_expanded (expression : String) :
    let text := expression.toList
    (∀ b start other next, StandsAt text b start → StandsAt text other next → start ≤ next →
      start = next ∧ b = other ∨ start + b.chars.length ≤ next) ∧
    (∀ (source : Source) e, (generate expression source).1 = .error e ↔ FirstFault text e) ∧
    (∀ source : Source, (∃ value, (generate expression source).1 = .ok value) ↔
      ∀ b start, StandsAt text b start → ∀ e, ¬b.Fault e) ∧
    ∀ (source last : Source) value, generate expression source = (.ok value, last) ↔
      ∃ parts : List Part, CutsUp text (parts.map Part.piece) ∧ (∀ part ∈ parts, part.Sound) ∧
        Draws source (parts.flatMap Part.draws) last ∧ value.toList = parts.flatMap Part.chars := by
  intro text
  have herror : ∀ (source : Source) e,
      (generate expression source).1 = .error e ↔ FirstFault text e := by
    intro source e
    rw [← expand_pieces_eq_error source, generate, map_eq_error]
  refine ⟨fun b start other next hstands hother hle => ?_, herror, fun source => ⟨?_, fun hsound => ?_⟩,
    fun source last value => ?_⟩
  · rcases Nat.eq_or_lt_of_le hle with rfl | hlt
    · exact Or.inl ⟨rfl, hstands.unique hother⟩
    · exact Or.inr (hstands.disjoint hother hlt)
  · rintro ⟨value, hvalue⟩ b start hstands e hfault
    obtain ⟨told, htold⟩ := exists_firstFault hstands hfault
    exact absurd (hvalue.symm.trans ((herror source told).mpr htold)) (by simp)
  · cases hresult : (generate expression source).1 with
    | ok value => exact ⟨value, rfl⟩
    | error e =>
        obtain ⟨b, start, hstands, hfault, -⟩ := (herror source e).mp hresult
        exact absurd hfault (hsound b start hstands e)
  · rw [generate, map_fst_eq_ok]
    constructor
    · rintro ⟨chars, hchars, rfl⟩
      obtain ⟨parts, hpieces, hparts, hdraws, rfl⟩ := expand_eq_ok.mp hchars
      refine ⟨parts, ?_, hparts, hdraws, String.toList_ofList⟩
      rw [hpieces]
      exact cutsUp_pieces text
    · rintro ⟨parts, hcuts, hparts, hdraws, hvalue⟩
      refine ⟨value.toList, expand_eq_ok.mpr ⟨parts, hcuts.eq_pieces, hparts, hdraws, hvalue.symm⟩, ?_⟩
      exact String.ofList_toList

end Drawing

end ResourceTemplate.Expression

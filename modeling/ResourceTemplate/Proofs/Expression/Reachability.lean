import Mathlib.Data.List.Nodup
import Mathlib.Data.List.Perm.Subperm
import ResourceTemplate.Proofs.Expression.Generation
import ResourceTemplate.Proofs.Expression.WordSource

/-!
# What an expression can come to

An expression describes the texts in which the text between its blocks is kept and each block gives
way to as many characters of its items as its length says.  Its values are exactly these texts: each
of them comes from words that can be delivered, and nothing else comes from any words.

Words are not looked for.  Every index below a bound has a least word that stands for it and is not
passed over, so the words for a text can be written down character by character.  That all texts are
equally likely is not claimed.
-/

namespace ResourceTemplate.Expression

/-! ## Words for indices -/

namespace WordSource

/-- The least word that stands for an index below a bound. -/
def leastWord (bound index : Nat) : UInt64 :=
  UInt64.ofNat ((index * Nat.pow 2 64 + (bound - 1)) / bound)

theorem pred_le_zone {bound : Nat} : bound - 1 ≤ zone bound :=
  Nat.sub_le_sub_right (Nat.le_mul_of_pos_right bound (Nat.pow_pos Nat.two_pos)) 1

/-- Every index below a bound is stood for by a word that is not passed over. -/
theorem indexOf?_leastWord {bound index : Nat} (hindex : index < bound)
    (hbound : bound ≤ Nat.pow 2 64) : indexOf? bound (leastWord bound index) = some index := by
  rw [Nat.pow_eq] at hbound
  have hpos : 0 < bound := by omega
  obtain ⟨quotient, hquotient⟩ : ∃ q, q = (index * 2 ^ 64 + (bound - 1)) / bound := ⟨_, rfl⟩
  -- Rounding up, the product passes the multiple of the number of words by less than the bound.
  obtain ⟨excess, hexcess, hproduct⟩ :
      ∃ excess, excess < bound ∧ quotient * bound = index * 2 ^ 64 + excess := by
    have hdiv := Nat.div_add_mod (index * 2 ^ 64 + (bound - 1)) bound
    have hmod := Nat.mod_lt (index * 2 ^ 64 + (bound - 1)) hpos
    rw [← hquotient, Nat.mul_comm] at hdiv
    exact ⟨bound - 1 - (index * 2 ^ 64 + (bound - 1)) % bound, by omega, by omega⟩
  have hword : quotient < 2 ^ 64 := by
    have hlt : quotient * bound < 2 ^ 64 * bound := by
      calc quotient * bound = index * 2 ^ 64 + excess := hproduct
        _ < (index + 1) * 2 ^ 64 := by omega
        _ ≤ bound * 2 ^ 64 := Nat.mul_le_mul_right _ hindex
        _ = 2 ^ 64 * bound := Nat.mul_comm _ _
    exact Nat.lt_of_mul_lt_mul_right hlt
  have hleast : (leastWord bound index).toNat = quotient := by
    rw [leastWord, Nat.pow_eq, ← hquotient, UInt64.toNat_ofNat', Nat.mod_eq_of_lt hword]
  have hlow : (index * 2 ^ 64 + excess) % Nat.pow 2 64 = excess := by
    rw [Nat.pow_eq]
    omega
  have hhigh : (index * 2 ^ 64 + excess) / Nat.pow 2 64 = index := by
    rw [Nat.pow_eq]
    omega
  have hzone : excess ≤ zone bound := by
    have hpred : bound - 1 ≤ zone bound := pred_le_zone
    omega
  simp only [indexOf?, hleast, hproduct, hlow, hhigh, hzone, if_true]

end WordSource

/-! ## Words for draws -/

/-- There is an index to be drawn, below a bound that words can tell apart. -/
structure Draw.Possible (draw : Draw) : Prop where
  index_lt : draw.index < draw.bound
  bound_le : draw.bound ≤ Nat.pow 2 64

theorem Draws.cons {Source : Type} [Drawer Source] {draw : Draw} {rest : List Draw}
    {source middle last : Source} (hdraw : Drawer.draw draw.bound source = (draw.index, middle))
    (hrest : Draws middle rest last) : Draws source (draw :: rest) last := by
  have hnext : Draws (Drawer.draw draw.bound source).2 rest last := by
    rw [hdraw]
    exact hrest
  have hdraws := Draws.next hnext
  rw [hdraw] at hdraws
  exact hdraws

/-- The words from which indices are drawn. -/
def wordsFor (draws : List Draw) : List UInt64 :=
  draws.map fun draw => WordSource.leastWord draw.bound draw.index

/-- Whatever there is to be drawn is drawn from the words for it, and from those alone. -/
theorem draws_wordsFor {draws : List Draw} (h : ∀ draw ∈ draws, draw.Possible) (state : UInt64) :
    Draws (⟨wordsFor draws, state⟩ : WordSource) draws ⟨[], state⟩ := by
  induction draws with
  | nil => exact .done _
  | cons draw draws ih =>
      obtain ⟨hdraw, hrest⟩ := List.forall_mem_cons.mp h
      have hword := WordSource.indexOf?_leastWord hdraw.index_lt hdraw.bound_le
      have htakes :=
        WordSource.Takes.of_prepared (List.forall_mem_nil _) hword (wordsFor draws) state
      exact .cons (WordSource.draw_eq_of_takes htakes) (ih hrest)

/-! ## Sizes of alphabets -/

theorem length_le_of_nodup {symbols : List Char} (h : symbols.Nodup) :
    symbols.length ≤ Nat.pow 2 64 := by
  have hnumbers : symbols.map Char.toNat ⊆ List.range (2 ^ 32) := by
    intro n hn
    obtain ⟨c, -, rfl⟩ := List.mem_map.mp hn
    exact List.mem_range.mpr c.val.toNat_lt
  have hnodup : (symbols.map Char.toNat).Nodup := h.map fun c d hcd => Char.toNat_inj.mp hcd
  have hle := (hnodup.subperm hnumbers).length_le
  rw [List.length_map, List.length_range] at hle
  rw [Nat.pow_eq]
  omega

theorem length_alphabet_le {body symbols : List Char} (h : alphabet body = .ok symbols) :
    symbols.length ≤ Nat.pow 2 64 := by
  obtain ⟨items, -, -, rfl⟩ := alphabet_eq_ok.mp h
  exact length_le_of_nodup (nodup_unionOf items)

/-! ## Texts that pieces describe -/

/-- A text is described by pieces: a kept character stands for itself, and a block for characters of
its items, as many as its length says. -/
inductive Describes : List Piece → List Char → Prop
  | nil : Describes [] []
  | kept {c : Char} {ps : List Piece} {text : List Char} (h : Describes ps text) :
      Describes (.kept c :: ps) (c :: text)
  | block {b : Block} {items : List Item} {chars : List Char} {ps : List Piece} {text : List Char}
      (hitems : Lists b.body items) (hcount : IsCount b.length chars.length)
      (hchars : ∀ c ∈ chars, ∃ item ∈ items, c ∈ item.chars) (h : Describes ps text) :
      Describes (.block b :: ps) (chars ++ text)

/-- The draw that points at a character. -/
def drawOf (symbols : List Char) (c : Char) : Draw := ⟨symbols.length, symbols.idxOf c⟩

theorem pointsAt_drawOf {symbols : List Char} {c : Char} (h : c ∈ symbols) :
    (drawOf symbols c).PointsAt symbols c :=
  ⟨rfl, List.idxOf_lt_length_of_mem h, List.getElem_idxOf _⟩

theorem forall₂_drawOf {symbols chars : List Char} (h : ∀ c ∈ chars, c ∈ symbols) :
    List.Forall₂ (Draw.PointsAt symbols) (chars.map (drawOf symbols)) chars := by
  induction chars with
  | nil => exact .nil
  | cons c chars ih =>
      obtain ⟨hc, hchars⟩ := List.forall_mem_cons.mp h
      exact .cons (pointsAt_drawOf hc) (ih hchars)

theorem mem_of_forall₂_pointsAt {symbols chars : List Char} {draws : List Draw}
    (h : List.Forall₂ (Draw.PointsAt symbols) draws chars) : ∀ c ∈ chars, c ∈ symbols := by
  induction h with
  | nil => simp
  | cons hpoints _ ih =>
      exact List.forall_mem_cons.mpr ⟨hpoints.char ▸ List.getElem_mem hpoints.lt, ih⟩

/-- Every text that pieces describe is what becomes of them with possible draws. -/
theorem exists_parts_of_describes {ps : List Piece} {text : List Char} (h : Describes ps text) :
    ∃ parts : List Part, parts.map Part.piece = ps ∧ (∀ part ∈ parts, part.Sound) ∧
      (∀ draw ∈ parts.flatMap Part.draws, draw.Possible) ∧ parts.flatMap Part.chars = text := by
  induction h with
  | nil => exact ⟨[], rfl, by simp, by simp, rfl⟩
  | @kept c ps text h ih =>
      obtain ⟨parts, rfl, hsound, hdraws, rfl⟩ := ih
      exact ⟨⟨.kept c, [], [c]⟩ :: parts, rfl, List.forall_mem_cons.mpr ⟨.kept c, hsound⟩, hdraws, rfl⟩
  | @block b items chars ps text hitems hcount hchars h ih =>
      obtain ⟨parts, rfl, hsound, hdraws, rfl⟩ := ih
      -- A count is positive, so a character was asked for and there is an item that it comes from.
      have hne : items ≠ [] := by
        obtain ⟨c, hc⟩ := List.exists_mem_of_length_pos hcount.pos
        obtain ⟨item, hitem, -⟩ := hchars c hc
        exact List.ne_nil_of_mem hitem
      have hsymbols : alphabet b.body = .ok (unionOf items) :=
        alphabet_eq_ok.mpr ⟨items, hne, hitems, rfl⟩
      have hmem : ∀ c ∈ chars, c ∈ unionOf items := fun c hc => mem_unionOf.mpr (hchars c hc)
      refine ⟨⟨.block b, chars.map (drawOf (unionOf items)), chars⟩ :: parts, rfl,
        List.forall_mem_cons.mpr ⟨?_, hsound⟩, ?_, rfl⟩
      · exact .block hsymbols (by rwa [List.length_map]) (forall₂_drawOf hmem)
      · rw [List.flatMap_cons, List.forall_mem_append]
        refine ⟨?_, hdraws⟩
        intro draw hdraw
        obtain ⟨c, hc, rfl⟩ := List.mem_map.mp hdraw
        exact ⟨(pointsAt_drawOf (hmem c hc)).lt, length_alphabet_le hsymbols⟩

/-- What becomes of pieces is a text that they describe. -/
theorem describes_of_parts {parts : List Part} (h : ∀ part ∈ parts, part.Sound) :
    Describes (parts.map Part.piece) (parts.flatMap Part.chars) := by
  induction parts with
  | nil => exact .nil
  | cons part parts ih =>
      obtain ⟨hpart, hparts⟩ := List.forall_mem_cons.mp h
      rw [List.map_cons, List.flatMap_cons]
      cases hpart with
      | kept c => exact .kept (ih hparts)
      | @block b symbols chars draws hsymbols hcount hchars =>
          obtain ⟨items, -, hitems, rfl⟩ := alphabet_eq_ok.mp hsymbols
          refine .block hitems (hchars.length_eq ▸ hcount) (fun c hc => ?_) (ih hparts)
          exact mem_unionOf.mp (mem_of_forall₂_pointsAt hchars c hc)

/-- An expression describes a text exactly when there are words from which the text comes as its
value, with no word left over and nothing drawn beyond them. -/
theorem described_iff_generated (expression text : String) :
    (∃ ps, CutsUp expression.toList ps ∧ Describes ps text.toList) ↔
      ∃ words : List UInt64, ∀ state : UInt64,
        generate expression (⟨words, state⟩ : WordSource) = (.ok text, ⟨[], state⟩) := by
  constructor
  · rintro ⟨ps, hcuts, hdescribes⟩
    obtain rfl := hcuts.eq_pieces
    obtain ⟨parts, hpieces, hsound, hpossible, hchars⟩ := exists_parts_of_describes hdescribes
    refine ⟨wordsFor (parts.flatMap Part.draws), fun state => ?_⟩
    rw [generate, map_fst_eq_ok]
    refine ⟨text.toList, expand_eq_ok.mpr ⟨parts, hpieces, hsound, ?_, hchars⟩, String.ofList_toList⟩
    exact draws_wordsFor hpossible state
  · rintro ⟨words, hwords⟩
    obtain ⟨value, hvalue, rfl⟩ := map_fst_eq_ok.mp (hwords 0)
    obtain ⟨parts, hpieces, hsound, -, rfl⟩ := expand_eq_ok.mp hvalue
    refine ⟨_, cutsUp_pieces _, ?_⟩
    rw [← hpieces, String.toList_ofList]
    exact describes_of_parts hsound

/-- The words for the second and the third of three letters. -/
example : generate "key-[a-c]\x7b2\x7d" (⟨wordsFor [⟨3, 1⟩, ⟨3, 2⟩], 0⟩ : WordSource) =
    (.ok "key-bc", ⟨[], 0⟩) := by rfl

end ResourceTemplate.Expression

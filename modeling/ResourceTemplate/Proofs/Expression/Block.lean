import ResourceTemplate.Expression.Block
import ResourceTemplate.Proofs.Text.Occurrence

/-!
# Where blocks stand

A block begins with a bracket that stands nowhere else in it, so blocks in an expression never
overlap, and an expression is cut at its blocks in exactly one way: a cutting of an expression is
its pieces.

Properties of an expression follow along its pieces: what is looked for in an expression is looked
for at its first piece and in what stands behind that piece.
-/

namespace ResourceTemplate.Expression

/-- A block that can be written in an expression. -/
structure Block.WellFormed (b : Block) : Prop where
  body_nonempty : b.body ≠ []
  body_chars : ∀ c ∈ b.body, isBodyChar c = true
  length_nonempty : b.length ≠ []
  length_chars : ∀ c ∈ b.length, Text.isWord c = true

/-! ## Blocks at the start of a text -/

theorem lengthAt?_eq_some {text length : List Char} :
    lengthAt? text = some length ↔ length ≠ [] ∧ (∀ c ∈ length, Text.isWord c = true) ∧
      '\x7b' :: (length ++ ['\x7d']) <+: text := by
  have hmark : Text.isWord '\x7d' = false := by decide
  constructor
  · intro h
    unfold lengthAt? at h
    split at h
    next rest =>
      dsimp only at h
      split at h
      next c cs behind hlength hbehind =>
        obtain rfl := Option.some.inj h
        obtain ⟨hchars, hrest⟩ := (Text.span_eq_iff hmark).mp ⟨rfl, hbehind⟩
        refine ⟨by simp [hlength], hchars, behind, ?_⟩
        nth_rewrite 2 [hrest]
        simp
      · exact absurd h (by simp)
    · exact absurd h (by simp)
  · rintro ⟨hne, hchars, behind, rfl⟩
    obtain ⟨hlength, hbehind⟩ :
        (length ++ '\x7d' :: behind).takeWhile Text.isWord = length ∧
          (length ++ '\x7d' :: behind).dropWhile Text.isWord = '\x7d' :: behind :=
      (Text.span_eq_iff hmark).mpr ⟨hchars, rfl⟩
    obtain ⟨c, cs, hcons⟩ := List.exists_cons_of_ne_nil hne
    have hshape : '\x7b' :: (length ++ ['\x7d']) ++ behind =
      '\x7b' :: (length ++ '\x7d' :: behind) := by
      simp
    rw [hshape]
    simp only [lengthAt?, hlength, hbehind]
    simp only [hcons]

theorem Block.chars_eq (b : Block) :
    b.chars = '[' :: (b.body ++ ']' :: '\x7b' :: (b.length ++ ['\x7d'])) := by
  simp [Block.chars]

theorem Block.chars_ne_nil (b : Block) : b.chars ≠ [] := by
  simp [b.chars_eq]

/-- A block is found exactly where it is written. -/
theorem blockAt?_eq_some {text : List Char} {b : Block} :
    blockAt? text = some b ↔ b.WellFormed ∧ b.chars <+: text := by
  have hmark : isBodyChar ']' = false := by decide
  constructor
  · intro h
    unfold blockAt? at h
    split at h
    next rest =>
      dsimp only at h
      split at h
      next c cs behind hbody hbehind =>
        obtain ⟨length, hlength, rfl⟩ := Option.map_eq_some_iff.mp h
        obtain ⟨hchars, hrest⟩ := (Text.span_eq_iff hmark).mp ⟨rfl, hbehind⟩
        obtain ⟨hne, hword, final, rfl⟩ := lengthAt?_eq_some.mp hlength
        refine ⟨⟨by simp [hbody], hchars, hne, hword⟩, final, ?_⟩
        rw [Block.chars_eq]
        simpa using hrest.symm
      · exact absurd h (by simp)
    · exact absurd h (by simp)
  · rintro ⟨hb, final, rfl⟩
    obtain ⟨behind, hbehind⟩ : ∃ behind, behind = '\x7b' :: (b.length ++ ['\x7d']) ++ final := ⟨_, rfl⟩
    have hlength : lengthAt? behind = some b.length :=
      lengthAt?_eq_some.mpr ⟨hb.length_nonempty, hb.length_chars, final, hbehind.symm⟩
    obtain ⟨htaken, hleft⟩ : (b.body ++ ']' :: behind).takeWhile isBodyChar = b.body ∧
        (b.body ++ ']' :: behind).dropWhile isBodyChar = ']' :: behind :=
      (Text.span_eq_iff hmark).mpr ⟨hb.body_chars, rfl⟩
    obtain ⟨c, cs, hcons⟩ := List.exists_cons_of_ne_nil hb.body_nonempty
    have hshape : b.chars ++ final = '[' :: (b.body ++ ']' :: behind) := by
      simp [b.chars_eq, hbehind]
    rw [hshape]
    simp only [blockAt?, htaken, hleft]
    simp only [hcons]
    rw [← hcons, hlength, Option.map_some]

theorem Block.WellFormed.bracket_notMem {b : Block} (h : b.WellFormed) : '[' ∉ b.chars.tail := by
  have hbody : '[' ∉ b.body := fun hmem => absurd (h.body_chars '[' hmem) (by decide)
  have hlength : '[' ∉ b.length := fun hmem => absurd (h.length_chars '[' hmem) (by decide)
  simp [b.chars_eq, hbody, hlength]

/-! ## Blocks in a text -/

/-- A block stands in a text behind so many characters. -/
def StandsAt (text : List Char) (b : Block) (start : Nat) : Prop :=
  b.WellFormed ∧ b.chars <+: text.drop start

section Standing

variable {text : List Char} {b other : Block} {start next : Nat}

/-- A block stands where it is found when the text is read from there. -/
theorem standsAt_iff : StandsAt text b start ↔ blockAt? (text.drop start) = some b :=
  blockAt?_eq_some.symm

theorem StandsAt.unique (h : StandsAt text b start) (hother : StandsAt text other start) :
    b = other := by
  rw [standsAt_iff] at h hother
  exact Option.some.inj (h.symm.trans hother)

/-- Blocks do not overlap. -/
theorem StandsAt.disjoint (h : StandsAt text b start) (hother : StandsAt text other next)
    (hlt : start < next) : start + b.chars.length ≤ next := by
  have hbegins : '[' :: (other.body ++ ']' :: '\x7b' :: (other.length ++ ['\x7d'])) <+:
      text.drop next := by
    rw [← other.chars_eq]
    exact hother.2
  exact Text.le_of_marked h.2 hbegins h.1.bracket_notMem hlt

end Standing

/-! ## Pieces -/

/-- How a piece is written. -/
def Piece.written : Piece → List Char
  | kept c => [c]
  | block b => b.chars

theorem Piece.written_ne_nil (piece : Piece) : piece.written ≠ [] := by
  cases piece with
  | kept c => simp [written]
  | block b => exact b.chars_ne_nil

theorem Piece.length_written_pos (piece : Piece) : 0 < piece.written.length :=
  List.length_pos_iff.mpr piece.written_ne_nil

/-- A piece is the first piece of a text when a text stands behind it. -/
def Piece.Leads (piece : Piece) (rest : List Char) : Prop :=
  match piece with
  | kept c => blockAt? (c :: rest) = none
  | block b => b.WellFormed

theorem cut_eq (taken : Nat) (text : List Char) : cut taken text = pieces (text.drop taken) := by
  induction text generalizing taken with
  | nil => simp [cut, pieces]
  | cons c rest ih =>
      cases taken with
      | zero => rfl
      | succ taken =>
          rw [cut, ih taken]
          rfl

theorem pieces_written_append {piece : Piece} {rest : List Char} (h : piece.Leads rest) :
    pieces (piece.written ++ rest) = piece :: pieces rest := by
  cases piece with
  | kept c =>
      have hnone : blockAt? (c :: rest) = none := h
      simp only [Piece.written, List.singleton_append, pieces, cut, hnone]
  | block b =>
      have hfound : blockAt? (b.chars ++ rest) = some b :=
        blockAt?_eq_some.mpr ⟨h, List.prefix_append _ _⟩
      obtain ⟨c, tail, htail⟩ := List.exists_cons_of_ne_nil b.chars_ne_nil
      rw [htail] at hfound
      simp only [Piece.written, htail, List.cons_append, pieces, cut] at hfound ⊢
      -- The bracket has been looked at; what is still to be skipped is the rest of the block.
      simp only [hfound, htail, cut_eq, List.length_cons, Nat.add_sub_cancel, List.drop_left]
      rfl

/-- What holds of the empty text, and of a text with a first piece behind which it holds, holds of
every text. -/
theorem pieces_induction {motive : List Char → Prop} (nil : motive [])
    (step : ∀ (piece : Piece) rest, piece.Leads rest → motive rest → motive (piece.written ++ rest))
    (text : List Char) : motive text := by
  induction hlength : text.length using Nat.strongRecOn generalizing text with
  | ind n ih =>
      cases text with
      | nil => exact nil
      | cons c rest =>
          cases hfound : blockAt? (c :: rest) with
          | none => exact step (.kept c) rest hfound (ih rest.length (by simp [← hlength]) rest rfl)
          | some b =>
              obtain ⟨hb, behind, hshape⟩ := blockAt?_eq_some.mp hfound
              have hpos := List.length_pos_iff.mpr b.chars_ne_nil
              rw [← hshape] at hlength ⊢
              refine step (.block b) behind hb (ih behind.length ?_ behind rfl)
              rw [← hlength, List.length_append]
              omega

/-- A block stands at the first piece of a text or behind it. -/
theorem standsAt_written_append {piece : Piece} {rest : List Char} (h : piece.Leads rest) {b : Block}
    {start : Nat} : StandsAt (piece.written ++ rest) b start ↔
      (piece = .block b ∧ start = 0) ∨
        ∃ later, start = piece.written.length + later ∧ StandsAt rest b later := by
  have hbehind : ∀ later, StandsAt (piece.written ++ rest) b (piece.written.length + later) ↔
      StandsAt rest b later := by
    intro later
    rw [StandsAt, StandsAt, ← List.drop_drop, List.drop_left]
  constructor
  · intro hstands
    rcases Nat.lt_or_ge start piece.written.length with hlt | hge
    · left
      cases piece with
      | kept c =>
          have hnone : blockAt? (c :: rest) = none := h
          obtain rfl : start = 0 := by simpa [Piece.written] using hlt
          exact absurd ((standsAt_iff.mp hstands).symm.trans hnone) (by simp)
      | block other =>
          have hfirst : StandsAt (other.chars ++ rest) other 0 := ⟨h, List.prefix_append _ _⟩
          rcases Nat.eq_zero_or_pos start with rfl | hpos
          · exact ⟨congrArg _ (hfirst.unique hstands), rfl⟩
          · have hstop := hfirst.disjoint hstands hpos
            have hwithin : start < other.chars.length := hlt
            omega
    · obtain ⟨later, rfl⟩ := Nat.exists_eq_add_of_le hge
      exact Or.inr ⟨later, rfl, (hbehind later).mp hstands⟩
  · rintro (⟨rfl, rfl⟩ | ⟨later, rfl, hstands⟩)
    · exact ⟨h, List.prefix_append _ _⟩
    · exact (hbehind later).mpr hstands

/-! ## Cuttings -/

/-- A block is one of the pieces, with so many characters written in front of it. -/
def CutAt (ps : List Piece) (b : Block) (start : Nat) : Prop :=
  ∃ front behind, ps = front ++ .block b :: behind ∧ (front.flatMap Piece.written).length = start

/-- Pieces cut a text up if the text is what is written of them, and the blocks among them are the
blocks that stand in the text. -/
structure CutsUp (text : List Char) (ps : List Piece) : Prop where
  written : ps.flatMap Piece.written = text
  everywhere : ∀ b start, StandsAt text b start ↔ CutAt ps b start

theorem not_cutAt_nil (b : Block) (start : Nat) : ¬CutAt [] b start := by
  rintro ⟨front, behind, h, -⟩
  simp at h

theorem cutAt_cons {piece : Piece} {ps : List Piece} {b : Block} {start : Nat} :
    CutAt (piece :: ps) b start ↔
      (piece = .block b ∧ start = 0) ∨
        ∃ later, start = piece.written.length + later ∧ CutAt ps b later := by
  constructor
  · rintro ⟨front, behind, hps, rfl⟩
    cases front with
    | nil => exact Or.inl ⟨(List.cons.inj hps).1, rfl⟩
    | cons first front =>
        obtain ⟨rfl, rfl⟩ := List.cons.inj hps
        exact Or.inr ⟨_, by simp, front, behind, rfl, rfl⟩
  · rintro (⟨rfl, rfl⟩ | ⟨later, rfl, front, behind, rfl, rfl⟩)
    · exact ⟨[], ps, rfl, rfl⟩
    · exact ⟨piece :: front, behind, rfl, by simp⟩

/-- The pieces of a text cut it up. -/
theorem cutsUp_pieces (text : List Char) : CutsUp text (pieces text) := by
  induction text using pieces_induction with
  | nil =>
      refine ⟨rfl, fun b start => iff_of_false ?_ (not_cutAt_nil b start)⟩
      rintro ⟨-, hbegins⟩
      exact b.chars_ne_nil (by simpa using hbegins)
  | step piece rest hleads ih =>
      rw [pieces_written_append hleads]
      refine ⟨by rw [List.flatMap_cons, ih.written], fun b start => ?_⟩
      simp only [standsAt_written_append hleads, cutAt_cons, ih.everywhere]

/-- What opens like a block and is none is kept, also around a block. -/
example : pieces "[a]\x7b[b]\x7b2\x7d\x7d".toList =
    [.kept '[', .kept 'a', .kept ']', .kept '\x7b', .block ⟨['b'], ['2']⟩, .kept '\x7d'] := by
  decide

/-- A text is cut up in one way. -/
theorem CutsUp.eq_pieces {text : List Char} {ps : List Piece} (h : CutsUp text ps) :
    ps = pieces text := by
  induction text using pieces_induction generalizing ps with
  | nil =>
      cases ps with
      | nil => rfl
      | cons piece ps =>
          have hwritten := h.written
          simp [piece.written_ne_nil] at hwritten
  | step piece rest hleads ih =>
      cases ps with
      | nil =>
          have hwritten := h.written
          simp [piece.written_ne_nil] at hwritten
      | cons first ps =>
          have hwritten := h.written
          rw [List.flatMap_cons] at hwritten
          -- Both begin with the same piece: a block that stands at the start, or else a kept
          -- character.
          have hfirst : first = piece := by
            have hstart : ∀ b, piece = .block b ↔ first = .block b := by
              intro b
              have hzero := h.everywhere b 0
              rw [standsAt_written_append hleads, cutAt_cons] at hzero
              have hpos := piece.length_written_pos
              have hpos' := first.length_written_pos
              grind
            cases first with
            | block b => exact ((hstart b).mpr rfl).symm
            | kept c =>
                cases piece with
                | block b => exact (hstart b).mp rfl
                | kept d =>
                    rw [(List.cons.inj hwritten).1]
          obtain rfl := hfirst
          rw [pieces_written_append hleads]
          refine congrArg _ (ih ⟨List.append_cancel_left hwritten, fun b later => ?_⟩)
          have hlater := h.everywhere b (first.written.length + later)
          rw [standsAt_written_append hleads, cutAt_cons] at hlater
          have hpos := first.length_written_pos
          grind

end ResourceTemplate.Expression

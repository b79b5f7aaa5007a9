/-!
# Sources of random words

From a source, indices below a bound are drawn; every draw moves the source on.

A source of words delivers words of 64 bits: first those that were prepared, then a sequence that is
computed from its state by adding a constant and mixing the bits of the sum.

An index below a bound is drawn by multiplying a word with the bound; the upper half of the product
is the index.  Words whose lower half lies beyond the last full zone are passed over, so that all
indices are equally likely.  Words are passed over until there is one that is not, however many
those are; the number that a draw counts down makes it a recursion that ends, and is too large to be
reached.
-/

namespace ResourceTemplate.Expression

/-- A kind of source from which indices are drawn. -/
class Drawer (Source : Type) where
  /-- An index below a bound, and what the source becomes. -/
  draw : (bound : Nat) → Source → Nat × Source
  draw_lt : ∀ {bound}, 0 < bound → ∀ source, (draw bound source).1 < bound

/-- A source of words. -/
structure WordSource where
  prepared : List UInt64
  state : UInt64

namespace WordSource

/-- The step between two states. -/
def increment : UInt64 := 0x9E3779B97F4A7C15

/-- The word of a state. -/
def mix (state : UInt64) : UInt64 :=
  let z := (state ^^^ (state >>> 30)) * 0xBF58476D1CE4E5B9
  let z := (z ^^^ (z >>> 27)) * 0x94D049BB133111EB
  z ^^^ (z >>> 31)

/-- The next word. -/
def next (source : WordSource) : UInt64 × WordSource :=
  match source.prepared with
  | word :: rest => (word, { source with prepared := rest })
  | [] =>
      let state := source.state + increment
      (mix state, { source with state := state })

/-- The bound shifted left until its highest bit is the highest of 64, less one. -/
def zone (bound : Nat) : Nat :=
  bound * Nat.pow 2 (63 - bound.log2) - 1

/-- The index that a word stands for, unless the word is to be passed over. -/
def indexOf? (bound : Nat) (word : UInt64) : Option Nat :=
  let product := word.toNat * bound
  if product % Nat.pow 2 64 ≤ zone bound then some (product / Nat.pow 2 64) else none

/-- Draw an index below a bound, passing over at most so many words.  The word after those would
count whatever it is; a draw has the patience never to come to it. -/
def drawWithin (bound : Nat) : Nat → WordSource → Nat × WordSource
  | 0, source =>
      let drawn := source.next
      (drawn.1.toNat * bound / Nat.pow 2 64, drawn.2)
  | patience + 1, source =>
      let drawn := source.next
      match indexOf? bound drawn.1 with
      | some index => (index, drawn.2)
      | none => drawWithin bound patience drawn.2

/-- More words than can be passed over: all that were prepared, and one for every state.  The step
between two states is odd, so the states come round to zero among those, and the word of zero is
zero, which stands for an index below every bound. -/
def patience (source : WordSource) : Nat :=
  source.prepared.length + Nat.pow 2 64

/-- Draw an index below a bound: that of the first word that is not passed over. -/
def draw (bound : Nat) (source : WordSource) : Nat × WordSource :=
  drawWithin bound source.patience source

/-- A word times a bound is below the bound times the number of words. -/
theorem index_lt (word : UInt64) {bound : Nat} (h : 0 < bound) :
    word.toNat * bound / Nat.pow 2 64 < bound := by
  have hw : word.toNat < Nat.pow 2 64 := word.toNat_lt
  rw [Nat.div_lt_iff_lt_mul (by decide), Nat.mul_comm]
  exact (Nat.mul_lt_mul_left h).mpr hw

theorem drawWithin_lt {bound : Nat} (h : 0 < bound) (patience : Nat) (source : WordSource) :
    (drawWithin bound patience source).1 < bound := by
  induction patience generalizing source with
  | zero => exact index_lt _ h
  | succ patience ih =>
      unfold drawWithin
      dsimp only
      cases hindex : indexOf? bound source.next.1 with
      | none => exact ih _
      | some index =>
          simp only [indexOf?, Option.ite_none_right_eq_some, Option.some.injEq] at hindex
          exact hindex.2 ▸ index_lt _ h

/-- Every drawn index is below its bound. -/
theorem draw_lt {bound : Nat} (h : 0 < bound) (source : WordSource) :
    (draw bound source).1 < bound :=
  drawWithin_lt h _ source

instance : Drawer WordSource := ⟨draw, draw_lt⟩

end WordSource

end ResourceTemplate.Expression

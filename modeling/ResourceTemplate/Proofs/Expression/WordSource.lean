import ResourceTemplate.Expression.WordSource

/-!
# The word that is taken

Words are passed over until one stands for an index, and there is no limit to how many those are.
The relation `Takes` says so without counting.  A draw, which does count, always gives what is
taken: a source that has delivered the prepared words goes through all states there are, since the
step between two states is odd, and one of them is zero, whose word is never passed over.
-/

namespace ResourceTemplate.Expression.WordSource

variable {bound : Nat} {source : WordSource} {drawn drawn' : Nat × WordSource}

/-- The first word of a source that stands for an index is taken: the index, and what is left. -/
inductive Takes (bound : Nat) : WordSource → Nat × WordSource → Prop
  | accepted {source : WordSource} {index : Nat}
      (hindex : indexOf? bound source.next.1 = some index) :
      Takes bound source (index, source.next.2)
  | passed {source : WordSource} {drawn : Nat × WordSource}
      (hnone : indexOf? bound source.next.1 = none) (hrest : Takes bound source.next.2 drawn) :
      Takes bound source drawn

/-- Only one word is taken. -/
theorem Takes.unique (h : Takes bound source drawn) (h' : Takes bound source drawn') :
    drawn = drawn' := by
  induction h with
  | accepted hindex =>
      cases h' with
      | accepted hindex' => rw [Option.some.inj (hindex.symm.trans hindex')]
      | passed hnone => simp [hindex] at hnone
  | passed hnone _ ih =>
      cases h' with
      | accepted hindex => simp [hnone] at hindex
      | passed _ hrest => exact ih hrest

/-- Words that are passed over can stand in front. -/
theorem Takes.of_prepared {passed : List UInt64} {word : UInt64} {index : Nat}
    (hpassed : ∀ w ∈ passed, indexOf? bound w = none) (hword : indexOf? bound word = some index)
    (later : List UInt64) (state : UInt64) :
    Takes bound ⟨passed ++ word :: later, state⟩ (index, ⟨later, state⟩) := by
  induction passed with
  | nil => exact .accepted hword
  | cons first passed ih =>
      obtain ⟨hfirst, hpassed⟩ := List.forall_mem_cons.mp hpassed
      exact .passed hfirst (ih hpassed)

/-! ## Words to come -/

/-- A source after so many words. -/
def skip : Nat → WordSource → WordSource
  | 0, source => source
  | n + 1, source => skip n source.next.2

theorem skip_add (m n : Nat) (source : WordSource) :
    skip (m + n) source = skip n (skip m source) := by
  induction m generalizing source with
  | zero => rw [Nat.zero_add, skip]
  | succ m ih => rw [Nat.succ_add, skip, skip, ih]

theorem skip_prepared (prepared : List UInt64) (state : UInt64) :
    skip prepared.length ⟨prepared, state⟩ = ⟨[], state⟩ := by
  induction prepared with
  | nil => rfl
  | cons word prepared ih => exact ih

theorem skip_computed (n : Nat) (state : UInt64) :
    skip n ⟨[], state⟩ = ⟨[], state + UInt64.ofNat n * increment⟩ := by
  induction n generalizing state with
  | zero => simp [skip]
  | succ n ih =>
      have hstate : state + increment + UInt64.ofNat n * increment =
          state + UInt64.ofNat (n + 1) * increment := by
        rw [UInt64.ofNat_add]
        grind
      rw [skip, next]
      dsimp only
      rw [ih, hstate]

/-- If a word that is not passed over comes up in time, a draw takes the first that does. -/
theorem takes_drawWithin {patience n : Nat} (hn : n < patience)
    (hword : indexOf? bound (source.skip n).next.1 ≠ none) :
    Takes bound source (drawWithin bound patience source) := by
  induction patience generalizing n source with
  | zero => exact absurd hn n.not_lt_zero
  | succ patience ih =>
      unfold drawWithin
      dsimp only
      cases hindex : indexOf? bound source.next.1 with
      | some index => exact .accepted hindex
      | none =>
          cases n with
          | zero => exact absurd hindex hword
          | succ n => exact .passed hindex (ih (Nat.lt_of_succ_lt_succ hn) hword)

/-! ## The cycle of the states -/

/-- The step between two states is odd, so it can be undone by multiplication. -/
theorem inverse_mul_increment : (0xF1DE83E19937733D : UInt64) * increment = 1 := by
  decide

/-- Whatever its state, a source that computes its words comes to the word zero. -/
theorem exists_skip_eq_zero (state : UInt64) :
    ∃ n < Nat.pow 2 64, (skip n ⟨[], state⟩).next.1 = 0 := by
  -- So many steps lead to the state in front of zero.
  obtain ⟨steps, hsteps⟩ : ∃ steps : UInt64, steps = (-state - increment) * 0xF1DE83E19937733D :=
    ⟨_, rfl⟩
  have hzero : state + steps * increment + increment = 0 := by
    have hinverse := inverse_mul_increment
    grind
  refine ⟨steps.toNat, steps.toNat_lt, ?_⟩
  rw [skip_computed, UInt64.ofNat_toNat, next]
  dsimp only
  rw [hzero]
  decide

theorem indexOf?_zero : indexOf? bound 0 = some 0 := by
  simp [indexOf?]

/-- A draw takes the first word that is not passed over, however many words stand in front of it. -/
theorem takes_draw (bound : Nat) (source : WordSource) :
    Takes bound source (draw bound source) := by
  obtain ⟨prepared, state⟩ := source
  obtain ⟨n, hn, hword⟩ := exists_skip_eq_zero state
  refine takes_drawWithin (n := prepared.length + n) (Nat.add_lt_add_left hn _) ?_
  rw [skip_add, skip_prepared, hword, indexOf?_zero]
  exact Option.some_ne_none 0

theorem draw_eq_of_takes (h : Takes bound source drawn) : draw bound source = drawn :=
  (takes_draw bound source).unique h

end ResourceTemplate.Expression.WordSource

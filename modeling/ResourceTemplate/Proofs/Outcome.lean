/-!
# Results of steps that can fail

When a step follows another, there is a result only if both have one, and what is told otherwise is
told by the first that has none.  Results can be compared if what they hold can be.
-/

namespace ResourceTemplate

variable {ε α β : Type}

instance instDecidableEqExcept [DecidableEq ε] [DecidableEq α] : DecidableEq (Except ε α)
  | .ok a, .ok b => decidable_of_iff (a = b) ⟨congrArg _, Except.ok.inj⟩
  | .error e, .error f => decidable_of_iff (e = f) ⟨congrArg _, Except.error.inj⟩
  | .ok _, .error _ => isFalse (by simp)
  | .error _, .ok _ => isFalse (by simp)

/-- What is done to a result is done only when there is one. -/
theorem exists_of_map_eq_ok {result : Except ε α} {f : α → β} {value : β}
    (h : result.map f = .ok value) : ∃ found, result = .ok found ∧ f found = value := by
  cases result with
  | error e => exact absurd h (by simp [Except.map])
  | ok found => exact ⟨found, rfl, Except.ok.inj h⟩

/-- What is done to a result tells nothing of its own. -/
theorem map_eq_error {result : Except ε α} {f : α → β} {e : ε} :
    result.map f = .error e ↔ result = .error e := by
  cases result <;> simp [Except.map]

/-- Two steps give a result only when both do. -/
theorem exists_of_bind_eq_ok {result : Except ε α} {f : α → Except ε β} {value : β}
    (h : result >>= f = .ok value) : ∃ found, result = .ok found ∧ f found = .ok value := by
  cases result with
  | error e => exact absurd h (by simp [bind, Except.bind])
  | ok found => exact ⟨found, rfl, h⟩

/-- Of two steps the first tells why there is no result, or else the second. -/
theorem bind_eq_error {result : Except ε α} {f : α → Except ε β} {e : ε} :
    result >>= f = .error e ↔
      result = .error e ∨ ∃ found, result = .ok found ∧ f found = .error e := by
  cases result <;> simp [bind, Except.bind]

end ResourceTemplate

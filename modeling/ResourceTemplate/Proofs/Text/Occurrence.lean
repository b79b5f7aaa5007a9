import Mathlib.Data.List.Basic

/-!
# Words in a text

A word made of characters of one kind is what is taken from a text up to the first character of
another kind.  Words that begin with a mark and have none further inside cannot overlap: the next
one begins behind the end of the one before.
-/

namespace ResourceTemplate.Text

variable {text : List Char}

/-- What is taken up to a mark is the word in front of it. -/
theorem span_eq_iff {isOf : Char → Bool} {word behind : List Char} {mark : Char}
    (hmark : isOf mark = false) :
    text.takeWhile isOf = word ∧ text.dropWhile isOf = mark :: behind ↔
      (∀ c ∈ word, isOf c = true) ∧ text = word ++ mark :: behind := by
  constructor
  · rintro ⟨rfl, hbehind⟩
    refine ⟨List.all_eq_true.mp List.all_takeWhile, ?_⟩
    rw [← hbehind, List.takeWhile_append_dropWhile]
  · rintro ⟨hword, rfl⟩
    have hstop : ¬isOf mark = true := by simp [hmark]
    constructor
    · rw [List.takeWhile_append_of_pos hword, List.takeWhile_cons_of_neg hstop, List.append_nil]
    · rw [List.dropWhile_append_of_pos hword, List.dropWhile_cons_of_neg hstop]

/-- A mark ends one word only. -/
theorem eq_of_append_mark {isOf : Char → Bool} {word other behind rest : List Char} {mark : Char}
    (hmark : isOf mark = false) (hword : ∀ c ∈ word, isOf c = true)
    (hother : ∀ c ∈ other, isOf c = true)
    (h : word ++ mark :: behind = other ++ mark :: rest) : word = other ∧ behind = rest := by
  obtain ⟨hfirst, hbehind⟩ := (span_eq_iff hmark).mpr ⟨hword, rfl⟩
  obtain ⟨hsecond, hrest⟩ := (span_eq_iff hmark).mpr ⟨hother, h⟩
  exact ⟨hfirst.symm.trans hsecond, (List.cons.inj (hbehind.symm.trans hrest)).2⟩

/-- A word with its only mark at the start ends before the next mark. -/
theorem le_of_marked {word other : List Char} {mark : Char} {start next : Nat}
    (hword : word <+: text.drop start) (hother : mark :: other <+: text.drop next)
    (hmark : mark ∉ word.tail) (hlt : start < next) : start + word.length ≤ next := by
  by_contra hwithin
  -- The mark would stand inside the word.
  obtain ⟨offset, rfl⟩ : ∃ offset, next = start + (offset + 1) := ⟨next - start - 1, by omega⟩
  obtain ⟨behind, hbehind⟩ := hword
  obtain ⟨rest, hrest⟩ := hother
  have hnext : text[start + (offset + 1)]? = some mark := by
    have hhead := congrArg (·[0]?) hrest
    simpa using hhead.symm
  have hinside : text[start + (offset + 1)]? = word.tail[offset]? := by
    rw [← List.getElem?_drop, ← hbehind, List.getElem?_append_left (by omega), List.getElem?_tail]
  exact hmark (List.mem_of_getElem? (hinside.symm.trans hnext))

end ResourceTemplate.Text

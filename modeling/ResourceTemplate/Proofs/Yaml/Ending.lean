import ResourceTemplate.Proofs.Yaml.Emission

/-!
# The end of a document

A document ends with the ending of its last line.  That is a newline, unless a literal text is
written last and has a line or paragraph separator at its end: the separator counts as a break, so
no newline is written behind it.  Other breaks cannot stand at the end of a literal text, as they
are not shown as they are.
-/

namespace ResourceTemplate.Yaml

mutual

/-- The text that is written last in a value, where it is a text. -/
def closing? : Json → Option String
  | .string s => some s
  | .array items => closingOfItems? items
  | .object members => closingOfMembers? members
  | _ => none

/-- The text that is written last in items. -/
def closingOfItems? : List Json → Option String
  | [] => none
  | [item] => closing? item
  | _ :: next :: rest => closingOfItems? (next :: rest)

/-- The text that is written last in members. -/
def closingOfMembers? : List (String × Json) → Option String
  | [] => none
  | [(_, value)] => closing? value
  | _ :: next :: rest => closingOfMembers? (next :: rest)

end

/-- A literal text that ends in a line or paragraph separator is written last. -/
def LacksNewline (value : Json) : Prop :=
  ∃ s, closing? value = some s ∧ Style.ofText s = .literal ∧
    (s.toList.getLast? = some '\u2028' ∨ s.toList.getLast? = some '\u2029')

/-- The ending of the last line. -/
def lastEnding? (ls : List Line) : Option Char := (ls.map Line.ending).getLast?

/-- The break behind what is written last. -/
def breakBehind : Option String → Char
  | none => '\n'
  | some s =>
      if Style.ofText s = .literal then (s.toList.getLast?.filter isBreak).getD '\n' else '\n'

theorem lastEnding_append {first second : List Line} {ending : Char}
    (h : lastEnding? second = some ending) : lastEnding? (first ++ second) = some ending := by
  rw [lastEnding?, List.map_append, List.getLast?_append]
  exact congrArg (Option.or · _) h

theorem lastEnding_concat (ls : List Line) (l : Line) : lastEnding? (ls ++ [l]) = some l.ending :=
  lastEnding_append rfl

theorem ending_moved (l : Line) : l.moved.ending = l.ending := by
  unfold Line.moved
  split <;> rfl

theorem lastEnding_moved (ls : List Line) : lastEnding? (ls.map Line.moved) = lastEnding? ls := by
  simp only [lastEnding?, List.map_map, Function.comp_def, ending_moved]

theorem lastEnding_hang (before : List Char) (ls : List Line) :
    lastEnding? (hang before ls) = lastEnding? ls := by
  cases ls with
  | nil => rfl
  | cons first rest =>
      simp only [hang, lastEnding?, List.map_cons, List.map_map, Function.comp_def, ending_moved]

theorem ofText_ne_folded (s : String) : Style.ofText s ≠ .folded := by
  simp only [Style.ofText]
  split_ifs <;> decide

theorem lastEnding_literalLines (cs : List Char) :
    lastEnding? (literalLines cs) = some ((cs.getLast?.filter isBreak).getD '\n') := by
  rw [literalLines, List.cons_append, ← List.singleton_append]
  rcases List.eq_nil_or_concat cs with rfl | ⟨front, c, rfl⟩
  · rfl
  rw [List.concat_eq_append, Line.cut_concat]
  -- A break at the end closes the last line and leaves nothing; anything else is left for a line of
  -- its own.
  by_cases hc : isBreak c = true
  · simp only [if_pos hc, List.isEmpty_nil, if_true, List.append_nil]
    rw [lastEnding_append (lastEnding_concat _ _)]
    simp [Option.filter_some, hc]
  · have htail : ((Line.cut [] front).2 ++ [c]).isEmpty = false := by simp
    simp only [if_neg hc, htail, Bool.false_eq_true, if_false]
    rw [lastEnding_append (lastEnding_concat _ _)]
    simp [Option.filter_some, hc, Line.ofText]

theorem lastEnding_textLines (s : String) :
    lastEnding? (textLines s) = some (breakBehind (some s)) := by
  cases hstyle : Style.ofText s with
  | plain => simp [textLines, hstyle, breakBehind, lastEnding?, Line.ofText]
  | singleQuoted =>
      simp only [textLines, hstyle, breakBehind, singleQuotedLines]
      exact lastEnding_concat _ _
  | doubleQuoted => simp [textLines, hstyle, breakBehind, lastEnding?, Line.ofText]
  | literal => simp only [textLines, hstyle, breakBehind, lastEnding_literalLines, if_true]
  | folded => exact absurd hstyle (ofText_ne_folded s)

theorem lastEnding_memberLines (key : String) (value : Json) {ls : List Line} {ending : Char}
    (h : lastEnding? ls = some ending) : lastEnding? (memberLines key value ls) = some ending := by
  rcases memberLines_cases key value ls with ⟨-, heq⟩ | heq | heq | heq
  · rw [heq, ← List.singleton_append]
    exact lastEnding_append h
  · rw [heq, ← List.singleton_append]
    exact lastEnding_append ((lastEnding_moved ls).trans h)
  · rw [heq, lastEnding_hang, h]
  · rw [heq]
    exact lastEnding_append ((lastEnding_hang _ ls).trans h)

mutual

/-- The last line of a value ends as the text that is written last in it. -/
theorem lastEnding_lines :
    ∀ value : Json, lastEnding? (lines value) = some (breakBehind (closing? value))
  | .array [] => rfl
  | .object [] => rfl
  | .array (item :: rest) => by
      rw [lines_array, closing?]
      exact lastEnding_itemLines (item :: rest) (List.cons_ne_nil item rest)
  | .object (member :: rest) => by
      rw [lines_object, closing?]
      exact lastEnding_entryLines (member :: rest) (List.cons_ne_nil member rest)
  | .string s => lastEnding_textLines s
  | .number _ => rfl
  | .bool _ => rfl
  | .null => rfl

theorem lastEnding_itemLines : ∀ items : List Json, items ≠ [] →
    lastEnding? (itemLines items) = some (breakBehind (closingOfItems? items))
  | [], h => absurd rfl h
  | [item], _ => by
      rw [itemLines, itemLines, List.append_nil, lastEnding_hang, closingOfItems?]
      exact lastEnding_lines item
  | item :: next :: rest, _ => by
      rw [itemLines, closingOfItems?]
      exact lastEnding_append (lastEnding_itemLines (next :: rest) (List.cons_ne_nil next rest))

theorem lastEnding_entryLines : ∀ members : List (String × Json), members ≠ [] →
    lastEnding? (entryLines members) = some (breakBehind (closingOfMembers? members))
  | [], h => absurd rfl h
  | [(key, value)], _ => by
      rw [entryLines, entryLines, List.append_nil, closingOfMembers?]
      exact lastEnding_memberLines key value (lastEnding_lines value)
  | (key, value) :: next :: rest, _ => by
      rw [entryLines, closingOfMembers?]
      exact lastEnding_append (lastEnding_entryLines (next :: rest) (List.cons_ne_nil next rest))

end

theorem eq_of_isBreak_of_isPrintable {c : Char} (hbreak : isBreak c = true)
    (hprintable : isPrintable c = true) : c = '\n' ∨ c = '\u2028' ∨ c = '\u2029' := by
  simp only [isBreak, Bool.or_eq_true, decide_eq_true_eq] at hbreak
  rcases hbreak with (((rfl | rfl) | rfl) | rfl) | rfl
  · exact Or.inl rfl
  · exact absurd hprintable (by decide)
  · exact absurd hprintable (by decide)
  · exact Or.inr (Or.inl rfl)
  · exact Or.inr (Or.inr rfl)

theorem isPrintable_of_literalAllowed {cs : List Char} (h : Style.literalAllowed cs = true) {c : Char}
    (hc : c ∈ cs) : isPrintable c = true := by
  simp only [Style.literalAllowed, Bool.not_eq_true', Bool.or_eq_false_iff] at h
  simpa using List.any_eq_false.mp h.2 c hc

theorem breakBehind_ne_newline_iff (s : String) : breakBehind (some s) ≠ '\n' ↔
    Style.ofText s = .literal ∧
      (s.toList.getLast? = some '\u2028' ∨ s.toList.getLast? = some '\u2029') := by
  by_cases hstyle : Style.ofText s = .literal
  · simp only [breakBehind, hstyle, if_true, true_and]
    cases hlast : s.toList.getLast? with
    | none => simp
    | some c =>
        have hprintable : isPrintable c = true :=
          isPrintable_of_literalAllowed (literalAllowed_of_ofText hstyle) (List.mem_of_getLast? hlast)
        by_cases hc : isBreak c = true
        · rcases eq_of_isBreak_of_isPrintable hc hprintable with rfl | rfl | rfl <;> decide
        · have hne : ∀ d, isBreak d = true → c ≠ d := fun d hd heq => hc (heq ▸ hd)
          simp [Option.filter_some, hc, hne '\u2028' rfl, hne '\u2029' rfl]
  · simp [breakBehind, hstyle]

theorem isBreak_breakBehind (closing : Option String) : isBreak (breakBehind closing) = true := by
  cases closing with
  | none => rfl
  | some s =>
      rw [breakBehind]
      split
      · cases hlast : s.toList.getLast?.filter isBreak with
        | none => rfl
        | some c => exact (Option.filter_eq_some_iff.mp hlast).2
      · rfl

theorem breakBehind_closing_ne_newline_iff (value : Json) :
    breakBehind (closing? value) ≠ '\n' ↔ LacksNewline value := by
  unfold LacksNewline
  cases closing? value with
  | none => simp [breakBehind]
  | some s => simpa using breakBehind_ne_newline_iff s

instance (value : Json) : Decidable (LacksNewline value) :=
  decidable_of_iff _ (breakBehind_closing_ne_newline_iff value)

theorem lastEnding_documentLines (value : Json) :
    lastEnding? (documentLines value) = some (breakBehind (closing? value)) := by
  unfold documentLines
  split
  · exact lastEnding_lines _
  · exact lastEnding_lines _
  · exact (lastEnding_hang [] _).trans (lastEnding_lines value)

theorem getLast?_flatMap_toList (ls : List Line) :
    (ls.flatMap Line.toList).getLast? = lastEnding? ls := by
  rcases List.eq_nil_or_concat ls with rfl | ⟨front, l, rfl⟩
  · rfl
  · rw [List.concat_eq_append, lastEnding_concat, List.flatMap_append, List.flatMap_singleton,
      Line.toList, ← List.append_assoc, List.getLast?_concat]

/-- The last character of a document. -/
theorem getLast?_document (value : Json) :
    (document value).toList.getLast? = some (breakBehind (closing? value)) := by
  rw [document, String.toList_ofList, getLast?_flatMap_toList, lastEnding_documentLines]

end ResourceTemplate.Yaml

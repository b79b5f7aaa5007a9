import Mathlib.Data.List.Basic
import Mathlib.Data.List.Induction
import ResourceTemplate.Yaml.Printer

/-!
# The lines of a document

Every break in a document ends one of the lines that are written for it, and none of these lines
begins with three dashes.

The first holds at every depth.  A text that has breaks is cut at them, or has them escaped; plain
texts, keys without a mark and numbers have none.  The second needs no look at what stands deeper: a
line that stands there is moved to the right, begins with the dash and the space of an item, or with
its key, and a key begins as a text does: with a quote, with the sign of a literal, or as itself,
which is then not taken for a mark.
-/

namespace ResourceTemplate.Yaml

/-- What the mark between documents begins with. -/
def dashes : List Char := ['-', '-', '-']

theorem not_dashes_prefix_cons {c : Char} (h : c ≠ '-') (cs : List Char) : ¬dashes <+: c :: cs := by
  rw [dashes, List.cons_prefix_cons]
  exact fun hdashes => h hdashes.1.symm

/-- Dashes in front of another character do not reach beyond it. -/
theorem dashes_prefix_of_append {before behind : List Char} {c : Char} (hc : c ≠ '-')
    (h : dashes <+: before ++ c :: behind) : dashes <+: before := by
  have hnotMem : c ∉ dashes := by simp [dashes, hc]
  -- The dashes and what ends with the other character begin the same text, so one begins the other.
  have hbefore : before ++ [c] <+: before ++ c :: behind := ⟨behind, by simp⟩
  rcases List.prefix_or_prefix_of_prefix h hbefore with h | h
  · rcases List.prefix_concat_iff.mp h with h | h
    · exact absurd (h ▸ by simp) hnotMem
    · exact h
  · exact absurd (h.subset (by simp)) hnotMem

/-- No character is a break. -/
def Unbroken (cs : List Char) : Prop := ∀ c ∈ cs, isBreak c = false

@[simp]
theorem unbroken_nil : Unbroken [] := fun _ hc => absurd hc List.not_mem_nil

@[simp]
theorem unbroken_cons_iff {c : Char} {cs : List Char} :
    Unbroken (c :: cs) ↔ isBreak c = false ∧ Unbroken cs := List.forall_mem_cons

@[simp]
theorem unbroken_append_iff {cs ds : List Char} :
    Unbroken (cs ++ ds) ↔ Unbroken cs ∧ Unbroken ds := List.forall_mem_append

theorem unbroken_of_any {cs : List Char} (h : cs.any isBreak = false) : Unbroken cs :=
  fun c hc => by simpa using List.any_eq_false.mp h c hc

theorem unbroken_flatMap {α : Type} {xs : List α} {f : α → List Char}
    (h : ∀ x ∈ xs, Unbroken (f x)) : Unbroken (xs.flatMap f) := by
  intro c hc
  obtain ⟨x, hx, hc⟩ := List.mem_flatMap.mp hc
  exact h x hx c hc

/-! ## Lines -/

namespace Line

/-- A line has no break in it but the one that ends it. -/
structure Clean (l : Line) : Prop where
  text : Unbroken l.text
  ending : isBreak l.ending = true

/-- A line does not begin as the mark between documents. -/
def Unmarked (l : Line) : Prop := ¬dashes <+: l.text

theorem clean_ofText {text : List Char} (h : Unbroken text) : (ofText text).Clean :=
  ⟨h, isBreak_newline⟩

theorem Clean.moved {l : Line} (h : l.Clean) : l.moved.Clean := by
  unfold Line.moved
  split
  · exact h
  · exact ⟨by simpa using ⟨rfl, h.text⟩, h.ending⟩

theorem unmarked_moved (l : Line) : l.moved.Unmarked := by
  unfold Line.moved
  split
  next hempty => simp [Unmarked, hempty, dashes]
  next => exact not_dashes_prefix_cons (by decide) _

/-- What begins with a line has dashes at its start only if the line has. -/
theorem Clean.dashes_before {l : Line} (h : l.Clean) {cs : List Char} (hcs : l.toList <+: cs)
    (hdashes : dashes <+: cs) : dashes <+: l.text := by
  obtain ⟨behind, rfl⟩ := hcs
  rw [toList, List.append_assoc, List.singleton_append] at hdashes
  have hne : l.ending ≠ '-' := fun heq => absurd (heq ▸ h.ending) (by decide)
  exact dashes_prefix_of_append hne hdashes

/-! ## Cutting -/

theorem cut_concat (current cs : List Char) (c : Char) :
    cut current (cs ++ [c]) =
      if isBreak c then ((cut current cs).1 ++ [⟨(cut current cs).2, c⟩], [])
      else ((cut current cs).1, (cut current cs).2 ++ [c]) := by
  induction cs generalizing current with
  | nil => by_cases hc : isBreak c = true <;> simp [cut, hc]
  | cons d rest ih =>
      by_cases hd : isBreak d = true
      · by_cases hc : isBreak c = true <;> simp [cut, hd, hc, ih []]
      · simp [cut, hd, ih (d :: current)]

/-- All lines that are cut are clean, and no break is left behind them.  A text is cut from the
left; that what is left has no break shows from the right. -/
theorem clean_cut (cs : List Char) :
    (∀ l ∈ (cut [] cs).1, l.Clean) ∧ Unbroken (cut [] cs).2 := by
  induction cs using List.reverseRecOn with
  | nil => simp [cut]
  | append_singleton cs c ih =>
      rw [cut_concat]
      split
      next hc =>
        refine ⟨List.forall_mem_append.mpr ⟨ih.1, ?_⟩, unbroken_nil⟩
        exact List.forall_mem_singleton.mpr ⟨ih.2, hc⟩
      next hc => exact ⟨ih.1, by simpa [ih.2] using hc⟩

/-- The first line that is cut begins with what was read of it before. -/
theorem cut_first (current cs : List Char) :
    ∃ more ending rest, (cut current cs).1 ++ [ofText (cut current cs).2] =
      ⟨current.reverse ++ more, ending⟩ :: rest := by
  induction cs generalizing current with
  | nil => exact ⟨[], '\n', [], by simp [cut, ofText]⟩
  | cons c cs ih =>
      by_cases hc : isBreak c = true
      · exact ⟨[], c, _, by simp only [cut, if_pos hc, List.append_nil]; rfl⟩
      · obtain ⟨more, ending, rest, h⟩ := ih (c :: current)
        exact ⟨c :: more, ending, rest, by simp only [cut, if_neg hc, h]; simp⟩

end Line

section Hang

variable {before : List Char} {ls : List Line}

theorem clean_hang (hbefore : Unbroken before) (h : ∀ l ∈ ls, l.Clean) :
    ∀ l ∈ hang before ls, l.Clean := by
  cases ls with
  | nil => simp [hang]
  | cons first rest =>
      rw [List.forall_mem_cons] at h
      rw [hang, List.forall_mem_cons, List.forall_mem_map]
      exact ⟨⟨unbroken_append_iff.mpr ⟨hbefore, h.1.text⟩, h.1.ending⟩, fun l hl => (h.2 l hl).moved⟩

theorem unmarked_hang (h : ∀ first ∈ ls.head?, ¬dashes <+: before ++ first.text) :
    ∀ l ∈ hang before ls, l.Unmarked := by
  cases ls with
  | nil => simp [hang]
  | cons first rest =>
      rw [hang, List.forall_mem_cons, List.forall_mem_map]
      exact ⟨h first rfl, fun l _ => l.unmarked_moved⟩

end Hang

/-! ## Texts -/

theorem plainAllowed_of_ofText {s : String} (h : Style.ofText s = .plain) :
    Style.plainAllowed s.toList = true := by
  simp only [Style.ofText] at h
  split_ifs at h with _ _ hplain
  exact (Bool.and_eq_true_iff.mp hplain).2

theorem literalAllowed_of_ofText {s : String} (h : Style.ofText s = .literal) :
    Style.literalAllowed s.toList = true := by
  simp only [Style.ofText] at h
  split_ifs at h with _ hliteral
  exact hliteral

theorem unbroken_of_plainAllowed {cs : List Char} (h : Style.plainAllowed cs = true) :
    Unbroken cs := by
  have hmultiline : Style.isMultiline cs = false := by
    simp only [Style.plainAllowed, Bool.not_eq_true', Bool.or_eq_false_iff] at h
    exact h.1.1.1.2
  exact unbroken_of_any hmultiline

theorem not_dashes_prefix_of_plainAllowed {cs : List Char} (h : Style.plainAllowed cs = true) :
    ¬dashes <+: cs := by
  rintro ⟨rest, rfl⟩
  simp [Style.plainAllowed, dashes, Style.hasLeadingIndicator] at h

theorem isBreak_escapeLetter {c letter : Char} (h : escapeLetter? c = some letter) :
    isBreak letter = false := by
  unfold escapeLetter? at h
  split at h <;> cases h <;> rfl

theorem unbroken_upperHex (width n : Nat) : Unbroken (Text.upperHex width n) := by
  have hdigit : ∀ d : Fin 16, isBreak (Nat.digitChar d).toUpper = false := by decide
  induction width generalizing n with
  | zero => exact unbroken_nil
  | succ width ih =>
      simp only [Text.upperHex, unbroken_append_iff, unbroken_cons_iff, unbroken_nil, and_true]
      exact ⟨ih (n / 16), hdigit ⟨n % 16, Nat.mod_lt n (by decide)⟩⟩

theorem unbroken_escapeChar (c : Char) : Unbroken (escapeChar c) := by
  unfold escapeChar
  split
  next h =>
    simp only [Bool.and_eq_true, Bool.not_eq_true'] at h
    exact unbroken_cons_iff.mpr ⟨h.1.1.2, unbroken_nil⟩
  next =>
    split
    next letter hletter => simpa using ⟨rfl, isBreak_escapeLetter hletter⟩
    next =>
      split_ifs <;> simpa using ⟨rfl, rfl, unbroken_upperHex _ _⟩

theorem clean_singleQuotedLines (cs : List Char) : ∀ l ∈ singleQuotedLines cs, l.Clean := by
  have hcut := Line.clean_cut (('\'' :: cs.flatMap doubleQuote) ++ ['\''])
  rw [singleQuotedLines, List.forall_mem_append, List.forall_mem_singleton]
  exact ⟨hcut.1, Line.clean_ofText hcut.2⟩

theorem clean_literalLines (cs : List Char) : ∀ l ∈ literalLines cs, l.Clean := by
  have hcut := Line.clean_cut cs
  have hheader : Unbroken ('|' :: indentationHint cs ++ endingHint cs) := by
    unfold indentationHint endingHint
    split_ifs <;> split <;> try split_ifs
    all_goals simp; decide
  rw [literalLines, List.cons_append, List.forall_mem_cons, List.forall_mem_append]
  refine ⟨Line.clean_ofText hheader, hcut.1, ?_⟩
  split
  · simp
  · exact List.forall_mem_singleton.mpr (Line.clean_ofText hcut.2)

theorem clean_textLines (s : String) : ∀ l ∈ textLines s, l.Clean := by
  cases hstyle : Style.ofText s with
  | plain =>
      simp only [textLines, hstyle, List.forall_mem_singleton]
      exact Line.clean_ofText (unbroken_of_plainAllowed (plainAllowed_of_ofText hstyle))
  | singleQuoted => simpa only [textLines, hstyle] using clean_singleQuotedLines s.toList
  | doubleQuoted =>
      simp only [textLines, hstyle, List.forall_mem_singleton]
      refine Line.clean_ofText ?_
      simpa using ⟨rfl, unbroken_flatMap fun c _ => unbroken_escapeChar c, rfl⟩
  | literal => simpa only [textLines, hstyle] using clean_literalLines s.toList
  | folded => simpa only [textLines, hstyle] using clean_literalLines s.toList

/-- A text is written as it is, or its first line begins with a quote or with the sign of a literal.
-/
theorem textLines_first (s : String) :
    (textLines s = [Line.ofText s.toList] ∧ ¬dashes <+: s.toList) ∨
      ∃ c more ending rest, textLines s = ⟨c :: more, ending⟩ :: rest ∧ c ≠ '-' := by
  cases hstyle : Style.ofText s with
  | plain =>
      refine Or.inl ⟨by simp only [textLines, hstyle], ?_⟩
      exact not_dashes_prefix_of_plainAllowed (plainAllowed_of_ofText hstyle)
  | singleQuoted =>
      obtain ⟨more, ending, rest, h⟩ :=
        Line.cut_first ['\''] (s.toList.flatMap doubleQuote ++ ['\''])
      refine Or.inr ⟨'\'', more, ending, rest, ?_, by decide⟩
      simp only [textLines, hstyle]
      exact h
  | doubleQuoted =>
      exact Or.inr ⟨'"', _, '\n', [], by simp only [textLines, hstyle]; rfl, by decide⟩
  | literal => exact Or.inr ⟨'|', _, '\n', _, by simp only [textLines, hstyle]; rfl, by decide⟩
  | folded => exact Or.inr ⟨'|', _, '\n', _, by simp only [textLines, hstyle]; rfl, by decide⟩

/-! ## Numbers -/

theorem isBreak_of_isDigit {c : Char} (h : c.isDigit = true) : isBreak c = false := by
  rw [Bool.eq_false_iff]
  intro hbreak
  simp only [isBreak, Bool.or_eq_true, decide_eq_true_eq] at hbreak
  rcases hbreak with (((rfl | rfl) | rfl) | rfl) | rfl <;> exact absurd h (by decide)

theorem ne_dash_of_isDigit {c : Char} (h : c.isDigit = true) : c ≠ '-' := by
  rintro rfl
  exact absurd h (by decide)

/-- A text that begins with a digit and has no break. -/
def Numeral (cs : List Char) : Prop := (∃ c ∈ cs.head?, c.isDigit = true) ∧ Unbroken cs

theorem numeral_toDigits (n : Nat) : Numeral (Nat.toDigits 10 n) := by
  have hdigit : ∀ c ∈ Nat.toDigits 10 n, c.isDigit = true :=
    fun c hc => Nat.isDigit_of_mem_toDigits (by decide) (by decide) hc
  refine ⟨?_, fun c hc => isBreak_of_isDigit (hdigit c hc)⟩
  obtain ⟨c, rest, hn⟩ := List.exists_cons_of_ne_nil (Nat.toDigits_ne_nil (n := n) (b := 10))
  exact ⟨c, by simp [hn], hdigit c (by simp [hn])⟩

theorem Numeral.append {cs ds : List Char} (h : Numeral cs) (hds : Unbroken ds) :
    Numeral (cs ++ ds) := by
  obtain ⟨⟨c, hc, hdigit⟩, hcs⟩ := h
  exact ⟨⟨c, by simp [Option.mem_def.mp hc], hdigit⟩, unbroken_append_iff.mpr ⟨hcs, hds⟩⟩

theorem Numeral.take {cs : List Char} (h : Numeral cs) {count : Nat} (hcount : 0 < count) :
    Numeral (cs.take count) := by
  obtain ⟨⟨c, hc, hdigit⟩, hcs⟩ := h
  refine ⟨⟨c, by rwa [List.head?_take, if_neg (Nat.ne_of_gt hcount)], hdigit⟩, fun d hd => hcs d ?_⟩
  exact List.mem_of_mem_take hd

theorem unbroken_replicate_zero (count : Nat) : Unbroken (List.replicate count '0') := by
  intro c hc
  rw [List.eq_of_mem_replicate hc]
  rfl

theorem numeral_toString (n : Nat) : Numeral (toString n).toList := by
  rw [Nat.toString_eq_ofList_toDigits, String.toList_ofList]
  exact numeral_toDigits n

theorem unbroken_toString (i : Int) : Unbroken (toString i).toList := by
  cases i with
  | ofNat n => exact (numeral_toString n).2
  | negSucc n =>
      have htext : (toString (Int.negSucc n)).toList = '-' :: (toString (n + 1)).toList :=
        String.toList_append
      rw [htext]
      exact unbroken_cons_iff.mpr ⟨rfl, (numeral_toString (n + 1)).2⟩

theorem numeral_positional (d : Binary64.Decimal) : Numeral d.positional := by
  have hdigits := numeral_toDigits d.digits
  simp only [Binary64.Decimal.positional]
  split_ifs with hpower hpoint
  · exact (hdigits.append (unbroken_replicate_zero _)).append (unbroken_of_any rfl)
  · refine (hdigits.take (Int.pos_iff_toNat_pos.mp hpoint)).append
      (unbroken_cons_iff.mpr ⟨rfl, fun c hc => ?_⟩)
    exact hdigits.2 c (List.mem_of_mem_drop hc)
  · have hzero : Numeral ['0', '.'] := ⟨⟨'0', rfl, rfl⟩, unbroken_of_any rfl⟩
    exact (hzero.append (unbroken_replicate_zero _)).append hdigits.2

theorem numeral_mantissa (d : Binary64.Decimal) : Numeral d.mantissa := by
  have hdigits := numeral_toDigits d.digits
  unfold Binary64.Decimal.mantissa
  split
  next first second rest h =>
    rw [h] at hdigits
    obtain ⟨hfirst, hunbroken⟩ := hdigits
    rw [unbroken_cons_iff] at hunbroken
    exact ⟨hfirst, unbroken_cons_iff.mpr ⟨hunbroken.1, unbroken_cons_iff.mpr ⟨rfl, hunbroken.2⟩⟩⟩
  next => exact hdigits

theorem numeral_text (layout : Binary64.Layout) (d : Binary64.Decimal) :
    Numeral (d.text layout).toList := by
  simp only [Binary64.Decimal.text]
  split_ifs
  · exact ⟨⟨'0', rfl, rfl⟩, unbroken_of_any rfl⟩
  · rw [String.toList_ofList]
    exact numeral_positional d
  all_goals
    simp only [String.toList_append, String.toList_ofList]
    exact (((numeral_mantissa d).append (unbroken_of_any rfl)).append (unbroken_of_any rfl)).append
      (unbroken_toString _)

/-- A number begins with a digit, or with a minus and a digit. -/
theorem numeral_or_negative (layout : Binary64.Layout) (n : Number) :
    Numeral (n.text layout).toList ∨
      ∃ digits, (n.text layout).toList = '-' :: digits ∧ Numeral digits := by
  cases n with
  | natural n => exact Or.inl (numeral_toString n)
  | negative n =>
      exact Or.inr ⟨(toString (n + 1)).toList, by simp [Number.text], numeral_toString (n + 1)⟩
  | double d =>
      simp only [Number.text, Binary64.text]
      split
      · exact Or.inr ⟨(d.shortest.text layout).toList, by simp, numeral_text layout d.shortest⟩
      · exact Or.inl (numeral_text layout d.shortest)

theorem unbroken_number (layout : Binary64.Layout) (n : Number) :
    Unbroken (n.text layout).toList := by
  rcases numeral_or_negative layout n with h | ⟨digits, htext, h⟩
  · exact h.2
  · rw [htext]
    exact unbroken_cons_iff.mpr ⟨rfl, h.2⟩

theorem Numeral.not_dashes {cs : List Char} (h : Numeral cs) : ¬dashes <+: cs := by
  obtain ⟨⟨c, hc, hdigit⟩, -⟩ := h
  obtain ⟨rest, rfl⟩ := List.head?_eq_some_iff.mp hc
  exact not_dashes_prefix_cons (ne_dash_of_isDigit hdigit) rest

theorem not_dashes_prefix_number (layout : Binary64.Layout) (n : Number) :
    ¬dashes <+: (n.text layout).toList := by
  rcases numeral_or_negative layout n with h | ⟨digits, htext, ⟨⟨c, hc, hdigit⟩, -⟩⟩
  · exact h.not_dashes
  · obtain ⟨rest, rfl⟩ := List.head?_eq_some_iff.mp hc
    rw [htext, dashes, List.cons_prefix_cons, List.cons_prefix_cons]
    exact fun hdashes => ne_dash_of_isDigit hdigit hdashes.2.1.symm

/-! ## Values -/

/-- The text of a key in front of its value. -/
def keyText (key : String) : List Char := simpleKeyText key ++ [':']

theorem unbroken_simpleKeyText (key : String) : Unbroken (simpleKeyText key) := by
  rw [simpleKeyText, ← List.flatMap_def]
  exact unbroken_flatMap fun l hl => (clean_textLines key l hl).text

theorem not_dashes_prefix_keyText (key : String) (behind : List Char) :
    ¬dashes <+: keyText key ++ behind := by
  rw [keyText, List.append_assoc, List.singleton_append]
  intro hdashes
  -- The colon behind the key is no dash, so the key itself would begin with dashes.
  have hkey := dashes_prefix_of_append (by decide) hdashes
  rcases textLines_first key with ⟨hlines, hfirst⟩ | ⟨c, more, ending, rest, hlines, hc⟩
  · rw [simpleKeyText, hlines] at hkey
    exact hfirst (by simpa [Line.ofText] using hkey)
  · rw [simpleKeyText, hlines] at hkey
    exact not_dashes_prefix_cons hc _ hkey

/-- How the lines of a value stand behind its key. -/
theorem memberLines_cases (key : String) (value : Json) (ls : List Line) :
    ((∃ item rest, value = .array (item :: rest)) ∧
        memberLines key value ls = Line.ofText (keyText key) :: ls) ∨
      memberLines key value ls = Line.ofText (keyText key) :: ls.map Line.moved ∨
      memberLines key value ls = hang (keyText key ++ [' ']) ls ∨
      memberLines key value ls = hang ['?', ' '] (textLines key) ++ hang [':', ' '] ls := by
  unfold memberLines
  split
  · dsimp only
    split
    next item rest => exact Or.inl ⟨⟨item, rest, rfl⟩, rfl⟩
    next => exact Or.inr (Or.inl rfl)
    next => exact Or.inr (Or.inr (Or.inl rfl))
  · exact Or.inr (Or.inr (Or.inr rfl))

theorem clean_memberLines (key : String) (value : Json) {ls : List Line} (h : ∀ l ∈ ls, l.Clean) :
    ∀ l ∈ memberLines key value ls, l.Clean := by
  have hkey : Unbroken (keyText key) :=
    unbroken_append_iff.mpr ⟨unbroken_simpleKeyText key, unbroken_of_any rfl⟩
  rcases memberLines_cases key value ls with ⟨-, heq⟩ | heq | heq | heq
  · rw [heq, List.forall_mem_cons]
    exact ⟨Line.clean_ofText hkey, h⟩
  · rw [heq, List.forall_mem_cons, List.forall_mem_map]
    exact ⟨Line.clean_ofText hkey, fun l hl => (h l hl).moved⟩
  · rw [heq]
    exact clean_hang (unbroken_append_iff.mpr ⟨hkey, unbroken_of_any rfl⟩) h
  · rw [heq, List.forall_mem_append]
    exact ⟨clean_hang (unbroken_of_any rfl) (clean_textLines key), clean_hang (unbroken_of_any rfl) h⟩

theorem lines_array (item : Json) (rest : List Json) :
    lines (.array (item :: rest)) = itemLines (item :: rest) := by simp only [lines]

theorem lines_object (member : String × Json) (rest : List (String × Json)) :
    lines (.object (member :: rest)) = entryLines (member :: rest) := by simp only [lines]

-- Values, items and members are written by three functions that call each other, so what is said of
-- their lines is shown of all three at once.
mutual

/-- Every break ends a line, at any depth. -/
theorem clean_lines : ∀ value : Json, ∀ l ∈ lines value, l.Clean
  | .array [] => by
      rw [lines, List.forall_mem_singleton]
      exact Line.clean_ofText (unbroken_of_any rfl)
  | .object [] => by
      rw [lines, List.forall_mem_singleton]
      exact Line.clean_ofText (unbroken_of_any rfl)
  | .array (item :: rest) => by
      rw [lines_array]
      exact clean_itemLines (item :: rest)
  | .object (member :: rest) => by
      rw [lines_object]
      exact clean_entryLines (member :: rest)
  | .string s => by
      rw [lines]
      exact clean_textLines s
  | .number n => by
      rw [lines, List.forall_mem_singleton]
      exact Line.clean_ofText (unbroken_number layout n)
  | .bool b => by
      rw [lines, List.forall_mem_singleton]
      cases b <;> exact Line.clean_ofText (unbroken_of_any rfl)
  | .null => by
      rw [lines, List.forall_mem_singleton]
      exact Line.clean_ofText (unbroken_of_any rfl)

theorem clean_itemLines : ∀ items : List Json, ∀ l ∈ itemLines items, l.Clean
  | [] => by simp [itemLines]
  | item :: rest => by
      rw [itemLines, List.forall_mem_append]
      exact ⟨clean_hang (unbroken_of_any rfl) (clean_lines item), clean_itemLines rest⟩

theorem clean_entryLines : ∀ members : List (String × Json), ∀ l ∈ entryLines members, l.Clean
  | [] => by simp [entryLines]
  | (key, value) :: rest => by
      rw [entryLines, List.forall_mem_append]
      exact ⟨clean_memberLines key value (clean_lines value), clean_entryLines rest⟩

end

theorem unmarked_itemLines (items : List Json) : ∀ l ∈ itemLines items, l.Unmarked := by
  induction items with
  | nil => simp [itemLines]
  | cons item rest ih =>
      rw [itemLines, List.forall_mem_append]
      refine ⟨unmarked_hang fun first _ => ?_, ih⟩
      simp [dashes]

theorem unmarked_memberLines (key : String) (value : Json) :
    ∀ l ∈ memberLines key value (lines value), l.Unmarked := by
  have hkey : (Line.ofText (keyText key)).Unmarked := by
    simpa [Line.Unmarked, Line.ofText] using not_dashes_prefix_keyText key []
  rcases memberLines_cases key value (lines value) with ⟨⟨item, rest, rfl⟩, heq⟩ | heq | heq | heq
  · -- Items stand at the margin, behind dashes of their own.
    rw [heq, lines_array, List.forall_mem_cons]
    exact ⟨hkey, unmarked_itemLines (item :: rest)⟩
  · rw [heq, List.forall_mem_cons, List.forall_mem_map]
    exact ⟨hkey, fun l _ => l.unmarked_moved⟩
  · -- What stands behind the key on its line does not matter, be it empty or a dash.
    rw [heq]
    refine unmarked_hang fun first _ => ?_
    rw [List.append_assoc]
    exact not_dashes_prefix_keyText key _
  · rw [heq, List.forall_mem_append]
    constructor
    · exact unmarked_hang fun first _ => not_dashes_prefix_cons (by decide) _
    · exact unmarked_hang fun first _ => not_dashes_prefix_cons (by decide) _

theorem unmarked_entryLines (members : List (String × Json)) :
    ∀ l ∈ entryLines members, l.Unmarked := by
  induction members with
  | nil => simp [entryLines]
  | cons member rest ih =>
      rw [entryLines, List.forall_mem_append]
      exact ⟨unmarked_memberLines member.1 member.2, ih⟩

theorem unmarked_scalar (s : String) : ∀ l ∈ hang [] (textLines s), l.Unmarked := by
  refine unmarked_hang fun first hfirst => ?_
  rcases textLines_first s with ⟨hlines, hs⟩ | ⟨c, more, ending, rest, hlines, hc⟩
  · rw [hlines] at hfirst
    obtain rfl := Option.some.inj hfirst
    exact hs
  · rw [hlines] at hfirst
    obtain rfl := Option.some.inj hfirst
    exact not_dashes_prefix_cons hc more

theorem unmarked_ofText {text : List Char} (h : ¬dashes <+: text) :
    ∀ l ∈ [Line.ofText text], l.Unmarked :=
  List.forall_mem_singleton.mpr h

/-- No line of a document begins as the mark between documents. -/
theorem unmarked_documentLines (value : Json) : ∀ l ∈ documentLines value, l.Unmarked := by
  cases value with
  | null => exact unmarked_ofText (not_dashes_prefix_cons (c := 'n') (by decide) _)
  | bool b =>
      cases b
      · exact unmarked_ofText (not_dashes_prefix_cons (c := 'f') (by decide) _)
      · exact unmarked_ofText (not_dashes_prefix_cons (c := 't') (by decide) _)
  | number n => exact unmarked_ofText (not_dashes_prefix_number layout n)
  | string s => exact unmarked_scalar s
  | array items =>
      cases items with
      | nil => exact unmarked_ofText (not_dashes_prefix_cons (by decide) _)
      | cons item rest =>
          rw [documentLines, lines_array]
          exact unmarked_itemLines (item :: rest)
  | object members =>
      cases members with
      | nil => exact unmarked_ofText (not_dashes_prefix_cons (by decide) _)
      | cons member rest =>
          rw [documentLines, lines_object]
          exact unmarked_entryLines (member :: rest)

theorem clean_documentLines (value : Json) : ∀ l ∈ documentLines value, l.Clean := by
  unfold documentLines
  split
  · exact clean_lines _
  · exact clean_lines _
  · exact clean_hang unbroken_nil (clean_lines value)

end ResourceTemplate.Yaml

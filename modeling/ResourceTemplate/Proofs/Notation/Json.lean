import ResourceTemplate.Proofs.Notation.Written

/-!
# What JSON reads from the shared notation
-/

namespace ResourceTemplate.Notation

open Json

/-! ## Strings -/

/-- A string is read glyph by glyph. -/
theorem readString_glyphs (glyphs : List Glyph) (done : List Char) (offset : Nat)
    (rest : List Char) :
    ∃ offset', readString done offset (glyphs.flatMap Glyph.chars ++ '"' :: rest) =
      .ok (String.ofList (done.reverse ++ glyphs.map Glyph.char), ⟨offset', rest⟩) := by
  induction glyphs generalizing done offset with
  | nil => exact ⟨offset + 1, by simp [readString]⟩
  | cons glyph glyphs ih =>
      cases glyph with
      | plain c h =>
          obtain ⟨-, -, hprint, hquote, hslash⟩ := isPlain_iff.mp h
          obtain ⟨offset', hread⟩ := ih (c :: done) (offset + c.utf8Size)
          refine ⟨offset', ?_⟩
          have hcontrol : ¬ c.toNat < 0x20 := by omega
          simp only [List.flatMap_cons, Glyph.chars, List.cons_append, List.nil_append]
          rw [readString]
          · rw [if_neg hcontrol, hread]
            simp [Glyph.char]
          all_goals simp_all
      | letter e c h =>
          have hletter : e ≠ 'u' := by
            rintro rfl
            simp [simpleEscape?] at h
          obtain ⟨offset', hread⟩ := ih (c :: done) (offset + 2)
          refine ⟨offset', ?_⟩
          simp only [List.flatMap_cons, Glyph.chars, List.cons_append, List.nil_append]
          rw [readString]
          · simp only [h, hread]
            simp [Glyph.char]
          · exact fun _ _ _ _ _ hunit _ => hletter hunit
          · exact hletter
      | digits a b c d n h hhigh hlow =>
          obtain ⟨offset', hread⟩ := ih (Char.ofNat n :: done) (offset + 6)
          refine ⟨offset', ?_⟩
          simp only [List.flatMap_cons, Glyph.chars, List.cons_append, List.nil_append]
          simp only [readString, h, hhigh, hlow, hread]
          simp [Glyph.char]

/-! ## Gaps -/

theorem skipBlank_gap {depth : Nat} {gap : List Char} (hgap : IsGap depth gap) {c : Char}
    (hc : Cursor.isBlank c = false) (offset : Nat) (rest : List Char) :
    ∃ offset', Cursor.skipBlank ⟨offset, gap ++ c :: rest⟩ = ⟨offset', c :: rest⟩ := by
  refine ⟨offset + ((gap ++ c :: rest).takeWhile Cursor.isBlank).length, ?_⟩
  have hdrop : (gap ++ c :: rest).dropWhile Cursor.isBlank = c :: rest := by
    induction gap with
    | nil => simp [hc]
    | cons d gap ih =>
        have hd := (hgap d List.mem_cons_self).1
        have hrest : IsGap depth gap := fun e he => hgap e (List.mem_cons_of_mem d he)
        simp [hd, ih hrest]
  simp only [Cursor.skipBlank, Cursor.skipWhile, hdrop]

/-- In front of the next sign there is only a gap. -/
theorem Written.exists_next {depth : Nat} {sign : Sign} {signs : List Sign} {place : Cursor}
    (h : Written (depth + 1) (sign :: signs) place.rest) :
    ∃ offset rest, place.skipBlank = ⟨offset, sign.chars ++ rest⟩ ∧
      Written (sign.depthBehind depth) signs rest := by
  obtain ⟨start, chars⟩ := place
  cases h with
  | @cons _ gap _ _ rest hgap hrest =>
      obtain ⟨c, tail, hchars, hblank⟩ := sign.exists_chars_eq_cons
      obtain ⟨offset, hskip⟩ := skipBlank_gap hgap hblank start (tail ++ rest)
      refine ⟨offset, rest, ?_, hrest⟩
      rw [hchars]
      exact hskip

/-! ## Scalars -/

theorem readValue_numeral {fuel depth start : Nat} {place : Cursor} {chars rest : List Char}
    {found : Number} (h : Numeral chars found) (hskip : place.skipBlank = ⟨start, chars ++ rest⟩)
    (hrest : EndsNumeral rest) :
    ∃ span stop, readValue (fuel + 1) depth place =
      .done (.scalar span (scalarOf (.number found))) ⟨stop, rest⟩ := by
  rcases wholeNumber?_eq_some h.json with ⟨digits, stop, rfl, hread⟩ | ⟨stop, hread⟩
  · obtain ⟨stop', happend⟩ := readNumeral_append hrest hread (start + 1)
    have hvalue : readValue (fuel + 1) depth place =
        scalarOutcome ⟨start, '-' :: digits ++ rest⟩ (.ok (.number found, ⟨stop', rest⟩)) := by
      simp only [readValue, hskip, List.cons_append, happend, Except.map]
    exact ⟨_, stop', hvalue⟩
  · obtain ⟨d, tail, rfl, hdigit⟩ := exists_digit_of_readNumeral hread
    obtain ⟨stop', happend⟩ := readNumeral_append hrest hread start
    have hvalue : readValue (fuel + 1) depth place =
        scalarOutcome ⟨start, d :: tail ++ rest⟩ (.ok (.number found, ⟨stop', rest⟩)) := by
      simp only [readValue, hskip, List.cons_append] at happend ⊢
      -- A digit is none of the characters that other values begin with.
      split
      case h_1 heq => exact absurd heq (by simp)
      case h_9 heq =>
        obtain ⟨rfl, -⟩ := List.cons.inj heq
        rw [if_pos hdigit, happend]
        rfl
      case h_2 heq | h_3 heq | h_4 heq | h_5 heq | h_6 heq | h_7 heq | h_8 heq =>
        obtain ⟨rfl, -⟩ := List.cons.inj heq
        exact absurd hdigit (by decide)
    exact ⟨_, stop', hvalue⟩

/-- A word in front of a separator is read as its value. -/
theorem readValue_word {w : Word} {fuel depth start : Nat} {place : Cursor} {rest : List Char}
    (hskip : place.skipBlank = ⟨start, w.chars ++ rest⟩) (hrest : EndsNumeral rest) :
    ∃ span stop, readValue (fuel + 1) depth place =
      .done (.scalar span (scalarOf w.value)) ⟨stop, rest⟩ := by
  cases w with
  | null =>
      have hvalue : readValue (fuel + 1) depth place =
          scalarOutcome ⟨start, Word.null.chars ++ rest⟩ (.ok (.null, ⟨start + 4, rest⟩)) := by
        simp [readValue, hskip, Word.chars, readIdent, Except.map]
      exact ⟨_, start + 4, hvalue⟩
  | flag b =>
      cases b with
      | true =>
          have hvalue : readValue (fuel + 1) depth place =
              scalarOutcome ⟨start, (Word.flag true).chars ++ rest⟩
                (.ok (.bool true, ⟨start + 4, rest⟩)) := by
            simp [readValue, hskip, Word.chars, readIdent, Except.map]
          exact ⟨_, start + 4, hvalue⟩
      | false =>
          have hvalue : readValue (fuel + 1) depth place =
              scalarOutcome ⟨start, (Word.flag false).chars ++ rest⟩
                (.ok (.bool false, ⟨start + 5, rest⟩)) := by
            simp [readValue, hskip, Word.chars, readIdent, Except.map]
          exact ⟨_, start + 5, hvalue⟩
  | numeral chars number h => exact readValue_numeral h hskip hrest

theorem readValue_text {glyphs : List Glyph} {fuel depth start : Nat} {place : Cursor}
    {rest : List Char} (hskip : place.skipBlank = ⟨start, quoted glyphs ++ rest⟩) :
    ∃ span stop, readValue (fuel + 1) depth place =
      .done (.scalar span (scalarOf (.string (textOf glyphs)))) ⟨stop, rest⟩ := by
  obtain ⟨stop, hread⟩ := readString_glyphs glyphs [] (start + 1) rest
  have hvalue : readValue (fuel + 1) depth place =
      scalarOutcome ⟨start, quoted glyphs ++ rest⟩
        (.ok (.string (textOf glyphs), ⟨stop, rest⟩)) := by
    simp only [readValue, hskip, quoted, List.cons_append, List.append_assoc, List.nil_append, hread,
      Except.map]
    rfl
  exact ⟨_, stop, hvalue⟩

/-! ## Collections -/

section Collections

variable {fuel depth start : Nat} {place next : Cursor} {rest : List Char}
  {node : Document.Node Span}

theorem readValue_ne_done_of_zero : readValue 0 depth place ≠ .done node next := by
  simp [readValue, unreadableAt]

theorem exists_of_readValue_array (hskip : place.skipBlank = ⟨start, '[' :: rest⟩)
    (hread : readValue (fuel + 1) depth place = .done node next) :
    ∃ span items, node = .sequence span true items ∧ 1 < depth ∧
      readItems fuel (depth - 1) [] ⟨start + 1, rest⟩ = .done items next := by
  simp only [readValue, hskip] at hread
  split at hread
  next => exact absurd hread (by simp [unreadableAt])
  next hdepth =>
    split at hread
    next items behind hitems =>
      obtain ⟨rfl, rfl⟩ := Outcome.done.inj hread
      exact ⟨_, items, rfl, by omega, hitems⟩
    next => exact absurd hread (by simp)

theorem exists_of_readValue_object (hskip : place.skipBlank = ⟨start, '\x7b' :: rest⟩)
    (hread : readValue (fuel + 1) depth place = .done node next) :
    ∃ span entries, node = .mapping span true entries ∧ 1 < depth ∧
      readEntries fuel (depth - 1) [] ⟨start + 1, rest⟩ = .done entries next := by
  simp only [readValue, hskip] at hread
  split at hread
  next => exact absurd hread (by simp [unreadableAt])
  next hdepth =>
    split at hread
    next entries behind hentries =>
      obtain ⟨rfl, rfl⟩ := Outcome.done.inj hread
      exact ⟨_, entries, rfl, by omega, hentries⟩
    next => exact absurd hread (by simp)

theorem readItems_close {before items : List (Document.Node Span)}
    (hskip : place.skipBlank = ⟨start, ']' :: rest⟩)
    (hread : readItems fuel depth before place = .done items next) :
    items = before.reverse ∧ next = ⟨start + 1, rest⟩ := by
  cases fuel with
  | zero => simp [readItems] at hread
  | succ fuel =>
      simp only [readItems, hskip] at hread
      obtain ⟨rfl, rfl⟩ := Outcome.done.inj hread
      exact ⟨rfl, rfl⟩

theorem readEntries_close {before entries : List (Document.Node Span × Document.Node Span)}
    (hskip : place.skipBlank = ⟨start, '\x7d' :: rest⟩)
    (hread : readEntries fuel depth before place = .done entries next) :
    entries = before.reverse ∧ next = ⟨start + 1, rest⟩ := by
  cases fuel with
  | zero => simp [readEntries] at hread
  | succ fuel =>
      simp only [readEntries, hskip] at hread
      obtain ⟨rfl, rfl⟩ := Outcome.done.inj hread
      exact ⟨rfl, rfl⟩

/-- An item that is read is a value, with further items behind it. -/
theorem exists_of_readItem {before items : List (Document.Node Span)}
    (hread : readItem fuel depth before place = .done items next) :
    ∃ fuel' item behind, readValue fuel' depth place = .done item behind ∧
      readItems fuel' depth (item :: before) behind = .done items next := by
  cases fuel with
  | zero => simp [readItem] at hread
  | succ fuel =>
      simp only [readItem] at hread
      split at hread
      next item behind hvalue => exact ⟨fuel, item, behind, hvalue, hread⟩
      next => exact absurd hread (by simp)

variable {d : Nat} {signs : List Sign}

/-- A shape begins with a sign, which does not close a bracket. -/
theorem Shape.exists_signs_eq_cons (shape : Shape) :
    ∃ sign more c tail, shape.signs = sign :: more ∧ sign.chars = c :: tail ∧ c ≠ ']' := by
  cases shape with
  | word w =>
      refine ⟨.word w, [], ?_⟩
      cases w with
      | null => exact ⟨'n', _, rfl, rfl, by decide⟩
      | flag b =>
          cases b with
          | true => exact ⟨'t', _, rfl, rfl, by decide⟩
          | false => exact ⟨'f', _, rfl, rfl, by decide⟩
      | numeral chars number h =>
          obtain ⟨c, tail, rfl, hdigit | ⟨rfl, -⟩⟩ := h.exists_head
          · refine ⟨c, tail, rfl, rfl, ?_⟩
            rintro rfl
            exact absurd hdigit (by decide)
          · exact ⟨'-', tail, rfl, rfl, by decide⟩
  | text glyphs => exact ⟨.text glyphs, [], '"', _, rfl, rfl, by decide⟩
  | array items => exact ⟨.openArray, _, '[', [], rfl, rfl, by decide⟩
  | object members => exact ⟨.openObject, _, '\x7b', [], rfl, rfl, by decide⟩

/-- In front of a value there is only a gap. -/
theorem Written.exists_value {shape : Shape}
    (h : Written (d + 1) (shape.signs ++ signs) place.rest) :
    ∃ offset c tail, place.skipBlank = ⟨offset, c :: tail⟩ ∧ c ≠ ']' ∧
      Written (d + 1) (shape.signs ++ signs) (c :: tail) := by
  obtain ⟨sign, more, c, tail, hsigns, hchars, hopen⟩ := shape.exists_signs_eq_cons
  rw [hsigns, List.cons_append] at h ⊢
  obtain ⟨offset, rest, hskip, hrest⟩ := h.exists_next
  refine ⟨offset, c, tail ++ rest, ?_, hopen, ?_⟩
  · rw [hskip, hchars]
    rfl
  · have hgap : IsGap (d + 1) [] := fun c hc => absurd hc (by simp)
    have hwritten := Written.cons hgap hrest
    rwa [hchars] at hwritten

/-- Behind its comma, if it has one, an item is read. -/
theorem exists_of_readItems {before items : List (Document.Node Span)} {item : Shape}
    (hwritten : Written (d + 1) (Shape.before before.isEmpty ++ (item.signs ++ signs)) place.rest)
    (hread : readItems fuel depth before place = .done items next) :
    ∃ fuel' place', Written (d + 1) (item.signs ++ signs) place'.rest ∧
      readItem fuel' depth before place' = .done items next := by
  cases fuel with
  | zero => simp [readItems] at hread
  | succ fuel =>
      cases hfirst : before.isEmpty with
      | true =>
          rw [hfirst] at hwritten
          obtain ⟨offset, c, tail, hskip, hopen, hrest⟩ := Written.exists_value hwritten
          simp only [readItems, hskip, hfirst, if_true] at hread
          exact ⟨fuel, ⟨offset, c :: tail⟩, hrest, hread⟩
      | false =>
          rw [hfirst] at hwritten
          obtain ⟨offset, rest, hcomma, hrest⟩ := hwritten.exists_next
          have hbehind : Written (d + 1) (item.signs ++ signs) (Cursor.mk (offset + 1) rest).rest :=
            hrest
          obtain ⟨offset', c, tail, hskip, hopen, hvalue⟩ := hbehind.exists_value
          simp only [Sign.chars, List.cons_append, List.nil_append] at hcomma
          have hitem : readItem fuel depth before ⟨offset', c :: tail⟩ = .done items next := by
            simpa [readItems, hcomma, hskip, hfirst, hopen] using hread
          exact ⟨fuel, ⟨offset', c :: tail⟩, hvalue, hitem⟩

variable {before entries : List (Document.Node Span × Document.Node Span)} {key : Key}

/-- Behind its comma, if it has one, an entry is read. -/
theorem exists_of_readEntries
    (hwritten : Written (d + 1) (Shape.before before.isEmpty ++ (.key key :: signs)) place.rest)
    (hread : readEntries fuel depth before place = .done entries next) :
    ∃ fuel' offset rest, Written (d + 1) signs rest ∧
      readEntry fuel' depth before ⟨offset, (Sign.key key).chars ++ rest⟩ = .done entries next := by
  cases fuel with
  | zero => simp [readEntries] at hread
  | succ fuel =>
      cases hfirst : before.isEmpty with
      | true =>
          rw [hfirst] at hwritten
          obtain ⟨offset, rest, hskip, hrest⟩ := hwritten.exists_next
          simp only [Sign.chars, quoted, List.cons_append] at hskip ⊢
          have hentry : readEntry fuel depth before place.skipBlank = .done entries next := by
            simpa [readEntries, hskip, hfirst] using hread
          rw [hskip] at hentry
          exact ⟨fuel, offset, rest, hrest, hentry⟩
      | false =>
          rw [hfirst] at hwritten
          obtain ⟨offset, rest, hcomma, hrest⟩ := hwritten.exists_next
          have hbehind : Written (d + 1) (.key key :: signs) (Cursor.mk (offset + 1) rest).rest :=
            hrest
          obtain ⟨offset', rest', hskip, hrest'⟩ := hbehind.exists_next
          simp only [Sign.chars, quoted, List.cons_append, List.nil_append] at hcomma hskip ⊢
          have hentry : readEntry fuel depth before (Cursor.mk (offset + 1) rest).skipBlank =
              .done entries next := by
            simpa [readEntries, hcomma, hskip, hfirst] using hread
          rw [hskip] at hentry
          exact ⟨fuel, offset', rest', hrest', hentry⟩

/-- An entry that is read is a key and, behind the colon, a value, with further entries behind. -/
theorem exists_of_readEntry
    (hread : readEntry fuel depth before ⟨start, (Sign.key key).chars ++ rest⟩ = .done entries next) :
    ∃ fuel' offset span item behind,
      readValue fuel' depth ⟨offset, rest⟩ = .done item behind ∧
      readEntries fuel' depth
        ((.scalar span (scalarOf (.string (textOf key.glyphs))), item) :: before) behind =
          .done entries next := by
  cases fuel with
  | zero => simp [readEntry] at hread
  | succ fuel =>
      obtain ⟨stop, hname⟩ := readString_glyphs key.glyphs [] (start + 1) (key.gap ++ ':' :: rest)
      obtain ⟨colon, hskip⟩ :=
        skipBlank_gap (key.isGap 0) (rfl : Cursor.isBlank ':' = false) stop rest
      simp only [readEntry, Sign.chars, quoted, List.cons_append, List.append_assoc, List.drop_one,
        List.tail_cons, List.nil_append] at hread
      simp only [List.reverse_nil, List.nil_append] at hname
      simp only [hname, hskip] at hread
      split at hread
      next item behind hvalue => exact ⟨fuel, colon + 1, _, item, behind, hvalue, hread⟩
      next => exact absurd hread (by simp)

end Collections

/-! ## Documents -/

theorem separated_itemSigns (items : List Shape) (signs : List Sign) :
    Separated (Shape.itemSigns false items ++ .closeArray :: signs) := by
  cases items with
  | nil => exact ⟨.closeArray, signs, rfl, rfl⟩
  | cons item items => exact ⟨.comma, _, rfl, rfl⟩

theorem separated_memberSigns (members : List (Key × Shape)) (signs : List Sign) :
    Separated (Shape.memberSigns false members ++ .closeObject :: signs) := by
  cases members with
  | nil => exact ⟨.closeObject, signs, rfl, rfl⟩
  | cons member members => exact ⟨.comma, _, rfl, rfl⟩

/-- A numeral does not go on behind a gap or with a separator. -/
theorem Written.endsNumeral {depth : Nat} {signs : List Sign} {rest : List Char}
    (h : Written (depth + 1) signs rest) (hsep : Separated signs) : EndsNumeral rest := by
  obtain ⟨sign, more, rfl, hsign⟩ := hsep
  cases h with
  | @cons _ gap _ _ rest hgap hrest =>
      intro c hc
      cases gap with
      | nil =>
          cases sign with
          | comma | closeArray | closeObject =>
              obtain rfl := Option.some.inj hc
              decide
          | _ => simp [Sign.isSeparator] at hsign
      | cons blank gap =>
          obtain rfl := Option.some.inj hc
          have hblank := (hgap blank List.mem_cons_self).1
          simp only [Cursor.isBlank, Bool.or_eq_true, decide_eq_true_eq] at hblank
          rcases hblank with ((rfl | rfl) | rfl) | rfl <;> decide

mutual

/-- What is read from a text that is written with the signs of a shape is what JSON makes of it. -/
theorem readValue_written (shape : Shape) {fuel depth d : Nat} {place next : Cursor}
    {signs : List Sign} {node : Document.Node Span}
    (hwritten : Written (d + 1) (shape.signs ++ signs) place.rest) (hsep : Separated signs)
    (hread : readValue fuel depth place = .done node next) :
    Dialect.json.Spells shape node ∧ Written (d + 1) signs next.rest ∧
      shape.height ≤ depth - 1 := by
  cases fuel with
  | zero => exact absurd hread readValue_ne_done_of_zero
  | succ fuel =>
      match shape with
      | .word w =>
          obtain ⟨start, rest, hskip, hrest⟩ := hwritten.exists_next
          obtain ⟨span, stop, hvalue⟩ := readValue_word hskip (hrest.endsNumeral hsep)
          obtain ⟨rfl, rfl⟩ := Outcome.done.inj (hvalue.symm.trans hread)
          exact ⟨rfl, hrest, Nat.zero_le _⟩
      | .text glyphs =>
          obtain ⟨start, rest, hskip, hrest⟩ := hwritten.exists_next
          obtain ⟨span, stop, hvalue⟩ := readValue_text hskip
          obtain ⟨rfl, rfl⟩ := Outcome.done.inj (hvalue.symm.trans hread)
          exact ⟨rfl, hrest, Nat.zero_le _⟩
      | .array items =>
          rw [Shape.signs, List.cons_append, List.append_assoc] at hwritten
          obtain ⟨start, rest, hskip, hrest⟩ := hwritten.exists_next
          obtain ⟨span, nodes, rfl, hdepth, hitems⟩ := exists_of_readValue_array hskip hread
          obtain ⟨found, rfl, hfound, hnext, hheight⟩ := readItems_written items hrest hitems
          refine ⟨⟨rfl, hfound⟩, hnext, ?_⟩
          simp only [Shape.height]
          omega
      | .object members =>
          rw [Shape.signs, List.cons_append, List.append_assoc] at hwritten
          obtain ⟨start, rest, hskip, hrest⟩ := hwritten.exists_next
          obtain ⟨span, entries, rfl, hdepth, hentries⟩ := exists_of_readValue_object hskip hread
          obtain ⟨found, rfl, hfound, hnext, hheight⟩ := readEntries_written members hrest hentries
          refine ⟨⟨rfl, hfound⟩, hnext, ?_⟩
          simp only [Shape.height]
          omega

theorem readItems_written (items : List Shape) {fuel depth d : Nat} {place next : Cursor}
    {signs : List Sign} {before nodes : List (Document.Node Span)}
    (hwritten : Written (d + 1)
      (Shape.itemSigns before.isEmpty items ++ .closeArray :: signs) place.rest)
    (hread : readItems fuel depth before place = .done nodes next) :
    ∃ found, nodes = before.reverse ++ found ∧ Dialect.json.SpellsItems items found ∧
      Written d signs next.rest ∧ Shape.itemsHeight items ≤ depth - 1 := by
  match items with
  | [] =>
      obtain ⟨start, rest, hskip, hrest⟩ := Written.exists_next hwritten
      obtain ⟨rfl, rfl⟩ := readItems_close hskip hread
      exact ⟨[], by simp, trivial, hrest, Nat.zero_le _⟩
  | item :: items =>
      rw [Shape.itemSigns, List.append_assoc, List.append_assoc] at hwritten
      obtain ⟨fuel', place', hplace, hitem⟩ := exists_of_readItems hwritten hread
      obtain ⟨fuel, node, behind, hvalue, hmore⟩ := exists_of_readItem hitem
      obtain ⟨hspells, hbehind, hheight⟩ :=
        readValue_written item hplace (separated_itemSigns items signs) hvalue
      obtain ⟨found, rfl, hfound, hnext, hrest⟩ := readItems_written items hbehind hmore
      exact ⟨node :: found, by simp, ⟨hspells, hfound⟩, hnext, Nat.max_le.mpr ⟨hheight, hrest⟩⟩

theorem readEntries_written (members : List (Key × Shape)) {fuel depth d : Nat}
    {place next : Cursor} {signs : List Sign}
    {before entries : List (Document.Node Span × Document.Node Span)}
    (hwritten : Written (d + 1)
      (Shape.memberSigns before.isEmpty members ++ .closeObject :: signs) place.rest)
    (hread : readEntries fuel depth before place = .done entries next) :
    ∃ found, entries = before.reverse ++ found ∧ Dialect.json.SpellsMembers members found ∧
      Written d signs next.rest ∧ Shape.membersHeight members ≤ depth - 1 := by
  match members with
  | [] =>
      obtain ⟨start, rest, hskip, hrest⟩ := Written.exists_next hwritten
      obtain ⟨rfl, rfl⟩ := readEntries_close hskip hread
      exact ⟨[], by simp, trivial, hrest, Nat.zero_le _⟩
  | (key, value) :: members =>
      rw [Shape.memberSigns, List.append_assoc, List.cons_append, List.append_assoc] at hwritten
      obtain ⟨fuel', offset', rest, hrest, hentry⟩ := exists_of_readEntries hwritten hread
      obtain ⟨fuel, offset, span, node, behind, hvalue, hmore⟩ := exists_of_readEntry hentry
      have hplace : Written (d + 1)
          (value.signs ++ (Shape.memberSigns false members ++ .closeObject :: signs))
          (Cursor.mk offset rest).rest := hrest
      obtain ⟨hspells, hbehind, hheight⟩ :=
        readValue_written value hplace (separated_memberSigns members signs) hvalue
      obtain ⟨found, rfl, hfound, hnext, hmembers⟩ := readEntries_written members hbehind hmore
      exact ⟨(.scalar span (scalarOf (.string (textOf key.glyphs))), node) :: found, by simp,
        ⟨rfl, hspells, hfound⟩, hnext, Nat.max_le.mpr ⟨hheight, hmembers⟩⟩

end

/-- What JSON makes of a whole text that is written as an object. -/
theorem readDocument_written {members : List (Key × Shape)} {text : List Char}
    (hwritten : WritesObject members text) {node : Document.Node Span}
    (hread : readDocument text = (node, none)) :
    Dialect.json.Spells (.object members) node ∧ (Shape.object members).height < nestingLimit := by
  obtain ⟨lead, inside, rfl, hlead, hinside⟩ := hwritten
  unfold readDocument at hread
  split at hread
  next => exact absurd (Prod.mk.inj hread).2 (by simp)
  next found next hvalue =>
    have hfound : found = node := by
      simp only at hread
      split at hread
      · exact (Prod.mk.inj hread).1
      · exact (Prod.mk.inj hread).1
    subst hfound
    obtain ⟨start, hskip⟩ := skipBlank_gap hlead (rfl : Cursor.isBlank '\x7b' = false) 0 inside
    obtain ⟨span, entries, rfl, hdepth, hentries⟩ := exists_of_readValue_object hskip hvalue
    obtain ⟨found, rfl, hfound, -, hheight⟩ := readEntries_written members hinside hentries
    refine ⟨⟨rfl, hfound⟩, ?_⟩
    simp only [Shape.height]
    omega

end ResourceTemplate.Notation

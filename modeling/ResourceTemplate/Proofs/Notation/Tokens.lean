import Mathlib.Data.List.TakeWhile
import ResourceTemplate.Proofs.Notation.Scan
import ResourceTemplate.Yaml.Markup.Read

/-!
# The tokens of a whole text

A text is written as an object with the signs of its members.  Every character of it may stand in a
YAML text, and it stays written like that when line breaks are brought to one form.  So it is
scanned without a fault, to the tokens of its signs and nothing else.
-/

namespace ResourceTemplate.Notation

open Yaml

/-! ## Signs of shapes -/

/-- A separator may stand behind every sign. -/
theorem Sign.mayFollow_of_isSeparator {sign : Sign} (h : sign.isSeparator = true)
    (previous : Sign) : sign.MayFollow previous := by
  refine ⟨fun _ _ => h, ?_⟩
  rintro k rfl
  simp [isSeparator] at h

namespace Shape

mutual

/-- The signs of a shape follow one another, and what may follow everything follows them. -/
theorem follow_signs (shape : Shape) {previous : Sign} {signs : List Sign}
    (hword : ∀ w, previous ≠ .word w) (hrest : ∀ last, Follow last signs) :
    Follow previous (shape.signs ++ signs) := by
  match shape with
  | .word w => exact ⟨⟨fun w hw => absurd hw (hword w), by simp⟩, hrest _⟩
  | .text glyphs => exact ⟨⟨fun w hw => absurd hw (hword w), by simp⟩, hrest _⟩
  | .array items =>
      have hclose : ∀ last, Follow last (.closeArray :: signs) := fun last =>
        ⟨Sign.mayFollow_of_isSeparator rfl last, hrest _⟩
      have hitems := follow_itemSigns true items (fun _ => rfl) hclose
      refine ⟨⟨fun w hw => absurd hw (hword w), by simp⟩, ?_⟩
      simpa using hitems
  | .object members =>
      have hclose : ∀ last, Follow last (.closeObject :: signs) := fun last =>
        ⟨Sign.mayFollow_of_isSeparator rfl last, hrest _⟩
      have hmembers := follow_memberSigns true members (fun _ => rfl) hclose
      refine ⟨⟨fun w hw => absurd hw (hword w), by simp⟩, ?_⟩
      simpa using hmembers

theorem follow_itemSigns (first : Bool) (items : List Shape) {previous : Sign} {signs : List Sign}
    (hfirst : first = true → previous = .openArray) (hrest : ∀ last, Follow last signs) :
    Follow previous (itemSigns first items ++ signs) := by
  match items, first with
  | [], _ => exact hrest previous
  | item :: items, true =>
      obtain rfl := hfirst rfl
      rw [itemSigns, List.append_assoc, List.append_assoc]
      exact follow_signs item (by simp) fun last => follow_itemSigns false items (by simp) hrest
  | item :: items, false =>
      rw [itemSigns, List.append_assoc, List.append_assoc]
      exact ⟨Sign.mayFollow_of_isSeparator rfl previous, follow_signs item (by simp) fun last =>
        follow_itemSigns false items (by simp) hrest⟩

theorem follow_memberSigns (first : Bool) (members : List (Key × Shape)) {previous : Sign}
    {signs : List Sign}
    (hfirst : first = true → previous = .openObject) (hrest : ∀ last, Follow last signs) :
    Follow previous (memberSigns first members ++ signs) := by
  match members, first with
  | [], _ => exact hrest previous
  | (key, value) :: members, true =>
      obtain rfl := hfirst rfl
      rw [memberSigns, List.append_assoc, List.cons_append, List.append_assoc]
      exact ⟨⟨by simp, fun _ _ => rfl⟩, follow_signs value (by simp) fun last =>
        follow_memberSigns false members (by simp) hrest⟩
  | (key, value) :: members, false =>
      rw [memberSigns, List.append_assoc, List.cons_append, List.append_assoc]
      exact ⟨Sign.mayFollow_of_isSeparator rfl previous, ⟨by simp, fun _ _ => rfl⟩,
        follow_signs value (by simp) fun last => follow_memberSigns false members (by simp) hrest⟩

end

end Shape

/-! ## Characters -/

theorem isAllowed_of_isBlank {c : Char} (h : Json.Cursor.isBlank c = true) :
    isAllowed c = true := by
  simp only [Json.Cursor.isBlank, Bool.or_eq_true, decide_eq_true_eq] at h
  rcases h with ((rfl | rfl) | rfl) | rfl <;> decide

theorem isAllowed_of_isNumeralChar {c : Char} (h : Json.isNumeralChar c = true) :
    isAllowed c = true := by
  simp only [Json.isNumeralChar, Bool.or_eq_true, decide_eq_true_eq] at h
  rcases h with ((((hdigit | rfl) | rfl) | rfl) | rfl) | rfl
  · simp only [Char.isDigit, Bool.and_eq_true, decide_eq_true_eq] at hdigit
    have hlow : 0x30 ≤ c.toNat := hdigit.1
    have hhigh : c.toNat ≤ 0x39 := hdigit.2
    exact (isAllowed_of_toNat (by omega) (by omega)).1
  all_goals decide

theorem Word.isAllowed_of_mem_chars (w : Word) : ∀ c ∈ w.chars, isAllowed c = true := by
  cases w with
  | null => exact List.all_eq_true.mp rfl
  | flag b =>
      cases b with
      | true => exact List.all_eq_true.mp rfl
      | false => exact List.all_eq_true.mp rfl
  | numeral chars number h => exact fun c hc => isAllowed_of_isNumeralChar (h.allowed c hc)

/-- Every character of a sign may stand in a YAML text, and none ends a line. -/
theorem Sign.isAllowed_of_mem_chars (sign : Sign) :
    ∀ c ∈ sign.chars, isAllowed c = true ∧ isBreak c = false := by
  cases sign with
  | openArray | closeArray | openObject | closeObject | comma =>
      exact List.forall_mem_singleton.mpr (by decide)
  | key k =>
      intro c hc
      rcases List.mem_append.mp hc with hname | hcolon
      · exact Scanner.isAllowed_of_mem_key k c hname
      · obtain rfl := List.mem_singleton.mp hcolon
        decide
  | text glyphs => exact Scanner.isAllowed_of_mem_quoted glyphs
  | word w =>
      intro c hc
      obtain ⟨hspacing, -⟩ := isWordChar_iff.mp (Scanner.isWordChar_of_mem_chars w c hc)
      exact ⟨w.isAllowed_of_mem_chars c hc, (Bool.or_eq_false_iff.mp hspacing).2⟩

theorem Written.isAllowed_of_mem {depth : Nat} {signs : List Sign} {chars : List Char}
    (h : Written depth signs chars) : ∀ c ∈ chars, isAllowed c = true := by
  induction h with
  | nil hgap => exact fun c hc => isAllowed_of_isBlank (hgap c hc).1
  | @cons depth gap sign signs rest hgap hrest ih =>
      intro c hc
      rcases List.mem_append.mp hc with hblank | hc
      · exact isAllowed_of_isBlank (hgap c hblank).1
      · rcases List.mem_append.mp hc with hsign | hrest
        · exact (sign.isAllowed_of_mem_chars c hsign).1
        · exact ih c hrest

theorem WritesObject.isAllowed_of_mem {members : List (Key × Shape)} {text : List Char}
    (h : WritesObject members text) : ∀ c ∈ text, isAllowed c = true := by
  obtain ⟨lead, inside, rfl, hlead, hinside⟩ := h
  intro c hc
  rcases List.mem_append.mp hc with hblank | hc
  · exact isAllowed_of_isBlank (hlead c hblank).1
  · rcases List.mem_cons.mp hc with rfl | hc
    · decide
    · exact hinside.isAllowed_of_mem c hc

/-! ## Line breaks -/

theorem mem_normalizeBreaks {chars : List Char} {c : Char} (h : c ∈ normalizeBreaks chars) :
    c ∈ chars ∨ c = '\n' := by
  induction chars using normalizeBreaks.induct with
  | case1 rest ih =>
      simp only [normalizeBreaks, List.mem_cons] at h ⊢
      rcases h with rfl | h
      · exact .inr rfl
      · rcases ih h with h | h
        · exact .inl (.inr (.inr h))
        · exact .inr h
  | case2 d rest hpair ih =>
      rw [normalizeBreaks] at h
      · rcases List.mem_cons.mp h with heq | h
        · split at heq
          · exact .inr heq
          · exact .inl (heq ▸ List.mem_cons_self)
        · exact (ih h).imp_left (List.mem_cons_of_mem d)
      · exact hpair
  | case3 => simp [normalizeBreaks] at h

/-- Characters in front of something that is no newline are brought to one form by themselves. -/
theorem normalizeBreaks_append (chars : List Char) {c : Char} (hc : c ≠ '\n') (rest : List Char) :
    normalizeBreaks (chars ++ c :: rest) =
      normalizeBreaks chars ++ normalizeBreaks (c :: rest) := by
  induction chars using normalizeBreaks.induct with
  | case1 chars ih =>
      simp only [List.cons_append, normalizeBreaks, ih]
  | case2 d chars hpair ih =>
      have hpair' : ∀ tail, d = '\r' → chars ++ c :: rest = '\n' :: tail → False := by
        intro tail hd heq
        cases chars with
        | nil => exact hc (List.cons.inj heq).1
        | cons e chars =>
            obtain ⟨rfl, -⟩ := List.cons.inj heq
            exact hpair chars hd rfl
      rw [List.cons_append, normalizeBreaks, normalizeBreaks, ih, List.cons_append]
      · exact hpair
      · exact hpair'
  | case3 => rfl

theorem normalizeBreaks_cons {c : Char} (hc : isBreak c = false) (rest : List Char) :
    normalizeBreaks (c :: rest) = c :: normalizeBreaks rest := by
  simp only [isBreak, Bool.or_eq_false_iff, decide_eq_false_iff_not] at hc
  obtain ⟨⟨⟨⟨-, hreturn⟩, hnext⟩, -⟩, -⟩ := hc
  rw [normalizeBreaks]
  · simp [hreturn, hnext]
  · simp [hreturn]

theorem normalizeBreaks_append_of_isBreak_eq_false {chars : List Char}
    (h : ∀ c ∈ chars, isBreak c = false) (rest : List Char) :
    normalizeBreaks (chars ++ rest) = chars ++ normalizeBreaks rest := by
  induction chars with
  | nil => rfl
  | cons c chars ih =>
      rw [List.cons_append, normalizeBreaks_cons (h c List.mem_cons_self),
        ih fun d hd => h d (List.mem_cons_of_mem c hd), List.cons_append]

theorem IsGap.normalizeBreaks {depth : Nat} {gap : List Char} (h : IsGap depth gap) :
    IsGap depth (normalizeBreaks gap) := by
  intro c hc
  rcases mem_normalizeBreaks hc with hc | rfl
  · exact h c hc
  · exact ⟨rfl, fun _ => by decide⟩

/-- A text stays written with its signs when its line breaks are brought to one form. -/
theorem Written.normalizeBreaks {depth : Nat} {signs : List Sign} {chars : List Char}
    (h : Written depth signs chars) : Written depth signs (normalizeBreaks chars) := by
  induction h with
  | nil hgap => exact .nil hgap.normalizeBreaks
  | @cons depth gap sign signs rest hgap hrest ih =>
      have hsign := fun c hc => (sign.isAllowed_of_mem_chars c hc).2
      obtain ⟨c, tail, hchars, -⟩ := sign.exists_chars_eq_cons
      -- A carriage return at the end of the gap is not one half of a break, as no sign begins with
      -- a newline.
      have hbreak : c ≠ '\n' := by
        rintro rfl
        have hfalse := hsign '\n' (hchars ▸ List.mem_cons_self)
        exact absurd hfalse (by decide)
      have hnormal : Yaml.normalizeBreaks (gap ++ (sign.chars ++ rest)) =
          Yaml.normalizeBreaks gap ++ (sign.chars ++ Yaml.normalizeBreaks rest) := by
        rw [← normalizeBreaks_append_of_isBreak_eq_false hsign rest, hchars, List.cons_append,
          normalizeBreaks_append gap hbreak]
      rw [hnormal]
      exact .cons hgap.normalizeBreaks ih

theorem WritesObject.normalizeBreaks {members : List (Key × Shape)} {text : List Char}
    (h : WritesObject members text) : WritesObject members (normalizeBreaks text) := by
  obtain ⟨lead, inside, rfl, hlead, hinside⟩ := h
  refine ⟨Yaml.normalizeBreaks lead, Yaml.normalizeBreaks inside, ?_, hlead.normalizeBreaks,
    hinside.normalizeBreaks⟩
  rw [normalizeBreaks_append lead (by decide), normalizeBreaks_cons (by decide)]

/-! ## Scanning -/

/-- The tokens of a text that is written as an object. -/
def objectTokens (members : List (Key × Shape)) : List Token :=
  (Shape.object members).signs.flatMap Sign.tokens ++ [.streamEnd]

theorem exists_scan {members : List (Key × Shape)} {text : List Char}
    (h : WritesObject members text) :
    ∃ lexemes, Token.scan text = (lexemes, none) ∧
      lexemes.map Lexeme.token = objectTokens members := by
  obtain ⟨lead, inside, rfl, hlead, hinside⟩ := h
  let begun := Scanner.start (lead ++ '\x7b' :: inside)
  have hstart : Scanner.Inside 0 begun :=
    ⟨rfl, rfl, rfl, by simp [begun, Scanner.start], by simp [begun, Scanner.start], rfl⟩
  have hopens : BeginsToken ('\x7b' :: inside) := beginsToken_cons (by decide) inside
  obtain ⟨next, hready⟩ := Scanner.exists_ready hstart hlead hopens rfl
  have hchars : next.cursor.rest = '\x7b' :: inside := by rw [hready.cursor]
  obtain ⟨following, hopen, hpassed, hallowed⟩ :=
    Scanner.exists_openFlow hready.inside .flowMappingStart hchars
  have hfollow : Follow .openObject (Shape.memberSigns true members ++ [.closeObject]) :=
    Shape.follow_memberSigns true members (fun _ => rfl)
      fun last => ⟨Sign.mayFollow_of_isSeparator rfl last, trivial⟩
  have hwritten : Written 1 (Shape.memberSigns true members ++ [.closeObject])
      following.cursor.rest := by
    rw [hpassed.rest]
    exact hinside
  have hfuel : following.cursor.rest.length < (lead ++ '\x7b' :: inside).length := by
    rw [hpassed.rest]
    simp only [List.length_append, List.length_cons]
    omega
  obtain ⟨last, hrun, htokens⟩ :=
    Scanner.exists_run hpassed.inside hwritten hfollow (fun _ => hallowed) hfuel
  have hwhole : begun.run ((lead ++ '\x7b' :: inside).length + 1) = (last, none) :=
    (hready.goesOn _ following (by simp) ((Scanner.token_openObject hchars).trans hopen)).trans hrun
  refine ⟨last.tokens.reverse, ?_, ?_⟩
  · simp only [Token.scan]
    simp only [begun] at hwhole
    rw [hwhole]
  · rw [List.map_reverse, htokens, hpassed.tokens, hready.tokens]
    simp [begun, Scanner.start, objectTokens, Shape.signs, Sign.tokens]

theorem forbiddenCharacter?_eq_none {chars : List Char} (h : ∀ c ∈ chars, isAllowed c = true) :
    Markup.forbiddenCharacter? chars = none := by
  have hall : chars.takeWhile isAllowed = chars := List.takeWhile_eq_self_iff.mpr h
  simp only [Markup.forbiddenCharacter?, hall, if_true]

end ResourceTemplate.Notation

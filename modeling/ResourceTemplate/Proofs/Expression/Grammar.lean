import Mathlib.Data.Char
import Mathlib.Data.List.Induction
import Mathlib.Data.List.Range
import ResourceTemplate.Expression.Block
import ResourceTemplate.Proofs.Expression.Alphabet

/-!
# The grammar of bodies

A body is read from left to right, item by item.  A class is a backslash with the letter of the
class, a span is made of two letters or digits in the right order with a hyphen between them, and a
letter or a digit that no hyphen follows stands for itself.

Main statement: either a body is read to its end, and then its alphabet lists what its items stand
for, everything once and in the order in which it first appears, or there is a first place where no
item stands, and what stands there decides which error is told.  A span of which an end is no letter
or digit is never met, and neither is a union without characters.
-/

namespace ResourceTemplate.Expression

/-! ## Characters of items -/

/-- The letter that names a class. -/
def CharClass.letter : CharClass → Char
  | word => 'w'
  | digit => 'd'
  | alphanumeric => 'a'
  | symbol => 'A'

/-- A character belongs to a class. -/
def CharClass.Has : CharClass → Char → Prop
  | word, c => c.isAlphanum = true ∨ c = '_'
  | digit, c => c.isDigit = true
  | alphanumeric, c => c.isAlphanum = true
  | symbol, c => '!' ≤ c ∧ c ≤ '~' ∧ c.isAlphanum = false

/-- A character is one of those that an item stands for. -/
def Item.Has : Item → Char → Prop
  | charClass k, c => k.Has c
  | span first last, c => c.isAlphanum = true ∧ first ≤ c ∧ c ≤ last
  | single s, c => c = s

theorem CharClass.ofLetter?_letter (k : CharClass) : CharClass.ofLetter? k.letter = some k := by
  cases k <;> rfl

theorem CharClass.eq_letter {letter : Char} {k : CharClass}
    (h : CharClass.ofLetter? letter = some k) : letter = k.letter := by
  unfold CharClass.ofLetter? at h
  split_ifs at h <;> obtain rfl := Option.some.inj h <;> assumption

theorem isDigit_iff_toNat {c : Char} : c.isDigit = true ↔ 48 ≤ c.toNat ∧ c.toNat ≤ 57 := by
  have hdigit : c.isDigit = (decide (c.val ≥ 48) && decide (c.val ≤ 57)) := rfl
  simp [hdigit, UInt32.le_iff_toNat_le]

theorem isAlphanum_iff_toNat {c : Char} : c.isAlphanum = true ↔
    (48 ≤ c.toNat ∧ c.toNat ≤ 57) ∨
    (65 ≤ c.toNat ∧ c.toNat ≤ 90) ∨ 97 ≤ c.toNat ∧ c.toNat ≤ 122 := by
  have halphanum : c.isAlphanum = ((decide (c.val ≥ 65 ∧ c.val ≤ 90) ||
      (decide (c.val ≥ 97) && decide (c.val ≤ 122))) || c.isDigit) := rfl
  rw [halphanum, Bool.or_eq_true, isDigit_iff_toNat]
  simp [UInt32.le_iff_toNat_le]
  omega

theorem mem_iff_toNat_mem {c : Char} {cs : List Char} : c ∈ cs ↔ c.toNat ∈ cs.map Char.toNat :=
  (List.mem_map_of_injective fun _ _ h => Char.toNat_inj.mp h).symm

theorem mem_digits_iff {c : Char} : c ∈ digits ↔ c.isDigit = true := by
  have hcodes : digits.map Char.toNat = List.range' 48 10 := by decide
  rw [mem_iff_toNat_mem, hcodes, List.mem_range'_1, isDigit_iff_toNat]
  omega

theorem mem_alphanumeric_iff {c : Char} : c ∈ alphanumeric ↔ c.isAlphanum = true := by
  have hcodes : alphanumeric.map Char.toNat =
      List.range' 48 10 ++ List.range' 65 26 ++ List.range' 97 26 := by decide
  rw [mem_iff_toNat_mem, hcodes, List.mem_append, List.mem_append]
  simp only [List.mem_range'_1, isAlphanum_iff_toNat]
  omega

/-- The symbols are what ASCII shows besides letters and digits. -/
theorem mem_symbols_iff {c : Char} :
    c ∈ symbols ↔ '!' ≤ c ∧ c ≤ '~' ∧ c.isAlphanum = false := by
  let shown := (List.range' 33 94).filter fun n =>
    ¬((48 ≤ n ∧ n ≤ 57) ∨ (65 ≤ n ∧ n ≤ 90) ∨ 97 ≤ n ∧ n ≤ 122)
  have hfirst : symbols.map Char.toNat ⊆ shown := by decide
  have hsecond : shown ⊆ symbols.map Char.toNat := by decide
  have hshown : c.toNat ∈ shown ↔ '!' ≤ c ∧ c ≤ '~' ∧ c.isAlphanum = false := by
    rw [← Bool.not_eq_true, isAlphanum_iff_toNat]
    simp only [shown, List.mem_filter, List.mem_range'_1, decide_eq_true_eq, Char.le_def,
      UInt32.le_iff_toNat_le, Char.toNat_val]
    have hlow : '!'.toNat = 33 := rfl
    have hhigh : '~'.toNat = 126 := rfl
    omega
  rw [mem_iff_toNat_mem, ← hshown]
  exact ⟨fun h => hfirst h, fun h => hsecond h⟩

theorem CharClass.mem_chars_iff {k : CharClass} {c : Char} : c ∈ k.chars ↔ k.Has c := by
  cases k with
  | word => simp [CharClass.chars, CharClass.Has, mem_alphanumeric_iff]
  | digit => exact mem_digits_iff
  | alphanumeric => exact mem_alphanumeric_iff
  | symbol => exact mem_symbols_iff

theorem sorted_alphanumeric : alphanumeric.Pairwise (· < ·) := by decide

/-- Letters and digits are listed in the order of characters. -/
theorem idxOf_le_idxOf_iff {first last : Char} (hfirst : first ∈ alphanumeric)
    (hlast : last ∈ alphanumeric) :
    alphanumeric.idxOf first ≤ alphanumeric.idxOf last ↔ first ≤ last := by
  have hlt : ∀ {a b : Char}, a ∈ alphanumeric → b ∈ alphanumeric →
      alphanumeric.idxOf a < alphanumeric.idxOf b → a < b := by
    intro a b ha hb h
    have hsorted := List.pairwise_iff_getElem.mp sorted_alphanumeric _ _
      (List.idxOf_lt_length_of_mem ha) (List.idxOf_lt_length_of_mem hb) h
    rwa [List.getElem_idxOf, List.getElem_idxOf] at hsorted
  constructor
  · intro h
    rcases h.lt_or_eq with h | h
    · exact le_of_lt (hlt hfirst hlast h)
    · exact le_of_eq ((List.idxOf_inj hfirst).mp h)
  · intro h
    by_contra hnot
    exact absurd (hlt hlast hfirst (not_le.mp hnot)) (not_lt.mpr h)

theorem isSpan_iff_le {first last : Char} : isSpan first last = true ↔
    first.isAlphanum = true ∧ last.isAlphanum = true ∧ first ≤ last := by
  rw [isSpan_iff, ← mem_alphanumeric_iff, ← mem_alphanumeric_iff]
  refine and_congr_right fun hfirst => and_congr_right fun hlast => ?_
  exact idxOf_le_idxOf_iff hfirst hlast

/-- A span has the letters and digits from its first end to its last. -/
theorem mem_spanChars_iff {first last c : Char} (hfirst : first ∈ alphanumeric)
    (hlast : last ∈ alphanumeric) :
    c ∈ spanChars first last ↔ c.isAlphanum = true ∧ first ≤ c ∧ c ≤ last := by
  have hindex : c ∈ spanChars first last ↔ c ∈ alphanumeric ∧
      alphanumeric.idxOf first ≤ alphanumeric.idxOf c ∧
        alphanumeric.idxOf c ≤ alphanumeric.idxOf last := by
    simp only [spanChars, List.mem_iff_getElem?, List.getElem?_drop, List.getElem?_take]
    constructor
    · rintro ⟨offset, hoffset⟩
      split_ifs at hoffset with hlt
      obtain ⟨hbound, rfl⟩ := List.getElem?_eq_some_iff.mp hoffset
      have hnodup : alphanumeric.Nodup := sorted_alphanumeric.imp ne_of_lt
      rw [hnodup.idxOf_getElem]
      exact ⟨⟨_, hoffset⟩, by omega, by omega⟩
    · rintro ⟨hmem, hfrom, hto⟩
      have hc := List.idxOf_lt_length_of_mem (List.mem_iff_getElem?.mpr hmem)
      refine ⟨alphanumeric.idxOf c - alphanumeric.idxOf first, ?_⟩
      rw [Nat.add_sub_cancel' hfrom, if_pos (by omega), List.getElem?_eq_getElem hc,
        List.getElem_idxOf]
  rw [hindex, ← mem_alphanumeric_iff]
  refine and_congr_right fun hc => ?_
  rw [idxOf_le_idxOf_iff hfirst hc, idxOf_le_idxOf_iff hc hlast]

/-! ## Reading from left to right -/

/-- An item stands at the start of a text, in front of what is behind it. -/
inductive ItemAt : List Char → Item → List Char → Prop
  | charClass (k : CharClass) (behind : List Char) :
      ItemAt ('\\' :: k.letter :: behind) (.charClass k) behind
  | span {first last : Char} (hfirst : first.isAlphanum = true) (hlast : last.isAlphanum = true)
      (hle : first ≤ last) (behind : List Char) :
      ItemAt (first :: '-' :: last :: behind) (.span first last) behind
  | single {c : Char} {behind : List Char} (hc : c.isAlphanum = true)
      (hnext : behind.head? ≠ some '-') : ItemAt (c :: behind) (.single c) behind

/-- Items stand one behind the other at the start of a text, and the last argument is the place that
is reached. -/
inductive Reads : List Char → List Item → List Char → Prop
  | here (text : List Char) : Reads text [] text
  | next {text behind place : List Char} {item : Item} {items : List Item}
      (h : ItemAt text item behind) (hreads : Reads behind items place) :
      Reads text (item :: items) place

/-- Something stands at a place, but no item. -/
structure Stuck (place : List Char) : Prop where
  nonempty : place ≠ []
  no_item : ∀ item behind, ¬ItemAt place item behind

/-- Two letters or digits with a hyphen between them stand at a place, in the wrong order. -/
def Reversed (place : List Char) (first last : Char) : Prop :=
  first.isAlphanum = true ∧ last.isAlphanum = true ∧ last < first ∧ [first, '-', last] <+: place

/-- What is told of a body that cannot be read beyond a place. -/
structure Tells (body place : List Char) (e : GeneratorError) : Prop where
  reversed : ∀ first last, Reversed place first last → e = .reversedSpan first last
  malformed : (∀ first last, ¬Reversed place first last) →
    e = .malformed (String.ofList ('[' :: body ++ [']']))

/-- Symbols are those that items stand for, each once, in the order of first appearance. -/
structure Gathers (items : List Item) (symbols : List Char) : Prop where
  nonempty : symbols ≠ []
  nodup : symbols.Nodup
  mem_iff : ∀ c, c ∈ symbols ↔ ∃ item ∈ items, item.Has c
  in_order : symbols.Pairwise fun a b =>
    (items.flatMap Item.chars).idxOf a < (items.flatMap Item.chars).idxOf b

theorem isAlphanum_of_isBodyChar {c : Char} (h : isBodyChar c = true) (hhyphen : c ≠ '-')
    (hbackslash : c ≠ '\\') : c.isAlphanum = true := by
  simpa [isBodyChar, hhyphen, hbackslash] using h

theorem ne_of_isAlphanum {c : Char} (h : c.isAlphanum = true) : c ≠ '\\' ∧ c ≠ '-' :=
  ne_of_mem_alphanumeric (mem_alphanumeric_iff.mpr h)

theorem ItemAt.suffix {text behind : List Char} {item : Item} (h : ItemAt text item behind) :
    ∃ front, front ≠ [] ∧ text = front ++ behind := by
  cases h with
  | charClass k behind => exact ⟨['\\', k.letter], by simp, rfl⟩
  | @span first last _ _ _ behind => exact ⟨[first, '-', last], by simp, rfl⟩
  | @single c behind _ _ => exact ⟨[c], by simp, rfl⟩

theorem Reads.suffix {text place : List Char} {items : List Item} (h : Reads text items place) :
    ∃ front, text = front ++ place := by
  induction h with
  | here text => exact ⟨[], rfl⟩
  | next h _ ih =>
      obtain ⟨front, -, rfl⟩ := h.suffix
      obtain ⟨middle, rfl⟩ := ih
      exact ⟨front ++ middle, (List.append_assoc ..).symm⟩

theorem ItemAt.mem_chars_iff {text behind : List Char} {item : Item} (h : ItemAt text item behind)
    {c : Char} : c ∈ item.chars ↔ item.Has c := by
  cases h with
  | charClass k => exact CharClass.mem_chars_iff
  | span hfirst hlast =>
      exact mem_spanChars_iff (mem_alphanumeric_iff.mpr hfirst) (mem_alphanumeric_iff.mpr hlast)
  | single => exact List.mem_singleton

theorem Reads.mem_chars_iff {text place : List Char} {items : List Item}
    (h : Reads text items place) : ∀ item ∈ items, ∀ c, c ∈ item.chars ↔ item.Has c := by
  induction h with
  | here => simp
  | next h _ ih => exact List.forall_mem_cons.mpr ⟨fun _ => h.mem_chars_iff, ih⟩

theorem readItems_of_itemAt {text behind : List Char} {item : Item} (h : ItemAt text item behind) :
    readItems text = (readItems behind).map (item :: ·) := by
  cases h with
  | charClass k behind => simp only [readItems, CharClass.ofLetter?_letter]
  | span hfirst hlast hle behind =>
      have hspan := isSpan_iff_le.mpr ⟨hfirst, hlast, hle⟩
      have hmarks := ne_of_isAlphanum hlast
      rw [readItems]
      · simp only [hmarks, or_self, if_false, hspan, if_true]
      · exact (ne_of_isAlphanum hfirst).1
      · exact (ne_of_isAlphanum hfirst).2
  | single hc hnext =>
      rw [readItems]
      · exact fun h _ => (ne_of_isAlphanum hc).1 h
      · exact fun _ _ h _ => (ne_of_isAlphanum hc).1 h
      · exact (ne_of_isAlphanum hc).2
      · rintro rfl
        exact hnext rfl
      · rintro last rest rfl
        exact hnext rfl

theorem readItems_of_reads {text place : List Char} {items : List Item}
    (h : Reads text items place) : readItems text = (readItems place).map (items ++ ·) := by
  induction h with
  | here text => cases readItems text <;> rfl
  | @next text behind place item items h _ ih =>
      rw [readItems_of_itemAt h, ih]
      cases readItems place <;> rfl

/-- Every text is read to its end or to a place where no item stands. -/
theorem exists_reads (text : List Char) :
    ∃ items place, Reads text items place ∧ (place = [] ∨ Stuck place) := by
  induction hlength : text.length using Nat.strong_induction_on generalizing text with
  | _ length ih =>
      by_cases hempty : text = []
      · exact ⟨[], text, .here text, Or.inl hempty⟩
      · by_cases hitem : ∃ item behind, ItemAt text item behind
        · obtain ⟨item, behind, h⟩ := hitem
          obtain ⟨front, hfront, rfl⟩ := h.suffix
          have hshorter : behind.length < length := by
            have := List.length_pos_iff.mpr hfront
            rw [List.length_append] at hlength
            omega
          obtain ⟨items, place, hreads, hplace⟩ := ih _ hshorter behind rfl
          exact ⟨item :: items, place, .next h hreads, hplace⟩
        · refine ⟨[], text, .here text, Or.inr ⟨hempty, fun item behind h => ?_⟩⟩
          exact hitem ⟨item, behind, h⟩

theorem Reversed.head_isAlphanum {c first last : Char} {behind : List Char}
    (h : Reversed (c :: behind) first last) : c.isAlphanum = true := by
  obtain ⟨hfirst, -, -, hstart⟩ := h
  obtain ⟨rfl, -⟩ := List.cons_prefix_cons.mp hstart
  exact hfirst

theorem Reversed.eq {a b first last : Char} {behind : List Char}
    (h : Reversed (a :: '-' :: b :: behind) first last) : first = a ∧ last = b := by
  obtain ⟨-, -, -, hstart⟩ := h
  obtain ⟨hfirst, hstart⟩ := List.cons_prefix_cons.mp hstart
  obtain ⟨-, hstart⟩ := List.cons_prefix_cons.mp hstart
  exact ⟨hfirst, (List.cons_prefix_cons.mp hstart).1⟩

/-- Where a letter or a digit begins no item, a hyphen follows it, and then no end that would do. -/
theorem readItems_of_stuck_alphanum {c : Char} {rest : List Char} (hc : c.isAlphanum = true)
    (hchars : ∀ d ∈ rest, isBodyChar d = true)
    (hitem : ∀ item behind, ¬ItemAt (c :: rest) item behind) :
    (∃ first last, Reversed (c :: rest) first last ∧
        readItems (c :: rest) = .error (.reversed first last)) ∨
      (∀ first last, ¬Reversed (c :: rest) first last) ∧ readItems (c :: rest) = .error .malformed := by
  obtain ⟨hbackslash, hhyphen⟩ := ne_of_isAlphanum hc
  -- Without a hyphen behind it, the character would stand for itself.
  obtain ⟨rest, rfl⟩ : ∃ behind, rest = '-' :: behind := by
    by_contra hnone
    refine hitem _ _ (.single hc fun hnext => hnone ?_)
    exact List.head?_eq_some_iff.mp hnext
  cases rest with
  | nil =>
      refine Or.inr ⟨fun first last h => ?_, ?_⟩
      · have hlength := h.2.2.2.length_le
        simp at hlength
      · rw [readItems]
        · exact hbackslash
        · exact hhyphen
  | cons last behind =>
      have hread : readItems (c :: '-' :: last :: behind) =
          if last = '-' ∨ last = '\\' then .error .malformed
          else if isSpan c last = true then (readItems behind).map (Item.span c last :: ·)
          else .error (.reversed c last) := by
        rw [readItems]
        · exact hbackslash
        · exact hhyphen
      by_cases hmark : last = '-' ∨ last = '\\'
      · refine Or.inr ⟨fun first other h => ?_, by rw [hread, if_pos hmark]⟩
        obtain ⟨-, rfl⟩ := h.eq
        have hends := ne_of_isAlphanum h.2.1
        exact hmark.elim hends.2 hends.1
      · obtain ⟨hlastHyphen, hlastBackslash⟩ := not_or.mp hmark
        have hlast := isAlphanum_of_isBodyChar (hchars last (by simp)) hlastHyphen hlastBackslash
        have hlt : last < c := by
          by_contra hnot
          exact hitem _ _ (.span hc hlast (not_lt.mp hnot) behind)
        have hspan : ¬isSpan c last = true := fun h =>
          absurd (isSpan_iff_le.mp h).2.2 (not_le.mpr hlt)
        refine Or.inl ⟨c, last, ⟨hc, hlast, hlt, ⟨behind, rfl⟩⟩, ?_⟩
        rw [hread, if_neg hmark, if_neg hspan]

/-- Where no item stands in a body, there is a span in the wrong order or something malformed. -/
theorem readItems_of_stuck {place : List Char} (hchars : ∀ c ∈ place, isBodyChar c = true)
    (h : Stuck place) :
    (∃ first last, Reversed place first last ∧ readItems place = .error (.reversed first last)) ∨
      (∀ first last, ¬Reversed place first last) ∧ readItems place = .error .malformed := by
  obtain ⟨hnonempty, hitem⟩ := h
  obtain ⟨c, rest, rfl⟩ := List.exists_cons_of_ne_nil hnonempty
  by_cases hbackslash : c = '\\'
  · subst hbackslash
    refine Or.inr ⟨fun first last h => absurd h.head_isAlphanum (by decide), ?_⟩
    cases rest with
    | nil => rfl
    | cons letter rest =>
        cases hletter : CharClass.ofLetter? letter with
        | none => simp only [readItems, hletter]
        | some k =>
            obtain rfl := CharClass.eq_letter hletter
            exact absurd (.charClass k rest) (hitem _ _)
  · by_cases hhyphen : c = '-'
    · subst hhyphen
      exact Or.inr ⟨fun first last h => absurd h.head_isAlphanum (by decide), by simp [readItems]⟩
    · obtain ⟨hc, hrest⟩ := List.forall_mem_cons.mp hchars
      exact readItems_of_stuck_alphanum (isAlphanum_of_isBodyChar hc hhyphen hbackslash) hrest hitem

/-! ## Order of first appearance -/

theorem extendUnique_concat (known new : List Char) (c : Char) :
    extendUnique known (new ++ [c]) =
      if (extendUnique known new).contains c then extendUnique known new
      else extendUnique known new ++ [c] := by
  unfold extendUnique
  rw [List.foldl_append]
  rfl

/-- Characters are kept in the order in which they first appear. -/
theorem pairwise_extendUnique (cs : List Char) :
    (extendUnique [] cs).Pairwise fun a b => cs.idxOf a < cs.idxOf b := by
  induction cs using List.reverseRecOn with
  | nil => exact List.Pairwise.nil
  | append_singleton cs c ih =>
      have hmem : ∀ {a}, a ∈ extendUnique [] cs ↔ a ∈ cs := by simp [mem_extendUnique]
      have hkept : (extendUnique [] cs).Pairwise fun a b =>
          (cs ++ [c]).idxOf a < (cs ++ [c]).idxOf b := by
        refine ih.imp_of_mem fun ha hb hlt => ?_
        rwa [List.idxOf_append_of_mem (hmem.mp ha), List.idxOf_append_of_mem (hmem.mp hb)]
      rw [extendUnique_concat]
      split
      next => exact hkept
      next hnew =>
        refine List.pairwise_append.mpr ⟨hkept, List.pairwise_singleton _ _, fun a ha d hd => ?_⟩
        obtain rfl := List.mem_singleton.mp hd
        -- A character that is kept now has not appeared before.
        have hfirst : d ∉ cs := fun h => hnew (List.contains_iff_mem.mpr (hmem.mpr h))
        rw [List.idxOf_append_of_mem (hmem.mp ha), List.idxOf_append_of_notMem hfirst]
        exact Nat.lt_add_right _ (List.idxOf_lt_length_of_mem (hmem.mp ha))

theorem unionOf_eq (items : List Item) :
    unionOf items = extendUnique [] (items.flatMap Item.chars) := by
  simp only [unionOf, extendUnique, List.foldl_flatMap]

theorem Gathers.unique {items : List Item} {symbols others : List Char} (h : Gathers items symbols)
    (hothers : Gathers items others) : symbols = others := by
  have hperm : symbols.Perm others :=
    (List.perm_ext_iff_of_nodup h.nodup hothers.nodup).mpr fun c =>
      (h.mem_iff c).trans (hothers.mem_iff c).symm
  exact hperm.eq_of_pairwise (fun a b _ _ hab hba => absurd hab (lt_asymm hba)) h.in_order
    hothers.in_order

theorem readItems_eq_ok_of_reads {body : List Char} {items : List Item} (h : Reads body items []) :
    readItems body = .ok items := by
  rw [readItems_of_reads h]
  simp [readItems, Except.map]

theorem unionOf_ne_nil_of_readItems {body : List Char} {items : List Item} (hne : body ≠ [])
    (h : readItems body = .ok items) : unionOf items ≠ [] := by
  have hlists := lists_of_readItems h
  refine unionOf_ne_nil hlists ?_
  rintro rfl
  cases hlists
  exact hne rfl

theorem gathers_unionOf {body : List Char} {items : List Item} (hne : body ≠ [])
    (h : Reads body items []) : Gathers items (unionOf items) where
  nonempty := unionOf_ne_nil_of_readItems hne (readItems_eq_ok_of_reads h)
  nodup := nodup_unionOf items
  mem_iff c := by
    rw [mem_unionOf]
    exact exists_congr fun item => and_congr_right fun hitem => h.mem_chars_iff item hitem c
  in_order := unionOf_eq items ▸ pairwise_extendUnique _

/-! ## Alphabets of bodies -/

theorem alphabet_of_reads {body : List Char} {items : List Item} (hne : body ≠ [])
    (h : Reads body items []) : alphabet body = .ok (unionOf items) := by
  have hunion := (gathers_unionOf hne h).nonempty
  unfold alphabet
  simp only [readItems_eq_ok_of_reads h]
  split
  next hnil => exact absurd hnil hunion
  next c cs hcons => rw [hcons]

theorem Tells.unique {body place : List Char} {e other : GeneratorError} (h : Tells body place e)
    (hother : Tells body place other) : e = other := by
  by_cases hreversed : ∃ first last, Reversed place first last
  · -- Both tell the ends of the same span.
    obtain ⟨first, last, hreversed⟩ := hreversed
    rw [h.reversed first last hreversed, hother.reversed first last hreversed]
  · have hnone : ∀ first last, ¬Reversed place first last := fun first last hreversed' =>
      hreversed ⟨first, last, hreversed'⟩
    rw [h.malformed hnone, hother.malformed hnone]

theorem tells_of_stuck {body place : List Char} {items : List Item}
    (hbody : ∀ c ∈ body, isBodyChar c = true) (h : Reads body items place) (hstuck : Stuck place) :
    ∃ e, alphabet body = .error e ∧ Tells body place e := by
  obtain ⟨front, rfl⟩ := h.suffix
  have hplace : ∀ c ∈ place, isBodyChar c = true := fun c hc =>
    hbody c (List.mem_append_right front hc)
  have hread := readItems_of_reads h
  rcases readItems_of_stuck hplace hstuck with ⟨first, last, hreversed, hfault⟩ | ⟨hnone, hfault⟩
  · refine ⟨.reversedSpan first last, ?_, fun a b hother => ?_, fun hnone => ?_⟩
    · rw [hfault] at hread
      simp only [alphabet, hread, Except.map]
    · obtain ⟨-, -, -, behind, rfl⟩ := hreversed
      obtain ⟨rfl, rfl⟩ := hother.eq
      rfl
    · exact absurd hreversed (hnone first last)
  · refine ⟨_, ?_, fun a b hother => absurd hother (hnone a b), fun _ => rfl⟩
    rw [hfault] at hread
    simp only [alphabet, hread, Except.map]

/-- The alphabet of a body follows its grammar.  A body that is read to its end has the alphabet of
what its items stand for.  Any other body has none, and told is what stands at the first place that
cannot be read: a span in the wrong order with its ends, or the whole body as malformed.  No body
comes to a union without characters, and the ends of a span are always letters or digits when they
are compared. -/
theorem alphabet_follows_grammar {body : List Char} (hne : body ≠ [])
    (hbody : ∀ c ∈ body, isBodyChar c = true) :
    (∀ symbols, alphabet body = .ok symbols ↔
      ∃ items, Reads body items [] ∧ Gathers items symbols) ∧
    (∀ e, alphabet body = .error e ↔
      ∃ items place, Reads body items place ∧ Stuck place ∧ Tells body place e) ∧
    (∀ items, readItems body = .ok items → unionOf items ≠ []) ∧
    ∀ items first last behind, Reads body items (first :: '-' :: last :: behind) →
      first ≠ '\\' → first ≠ '-' → last ≠ '\\' → last ≠ '-' →
        first ∈ alphanumeric ∧ last ∈ alphanumeric := by
  -- The place that is reached is unique only through what is told there, so both readings are
  -- compared by it.
  obtain ⟨read, reached, hreads, hreached⟩ := exists_reads body
  refine ⟨fun symbols => ⟨fun h => ?_, ?_⟩, fun e => ⟨fun h => ?_, ?_⟩, fun items h => ?_, ?_⟩
  · rcases hreached with rfl | hstuck
    · obtain rfl := Except.ok.inj ((alphabet_of_reads hne hreads).symm.trans h)
      exact ⟨read, hreads, gathers_unionOf hne hreads⟩
    · obtain ⟨e, he, -⟩ := tells_of_stuck hbody hreads hstuck
      exact absurd (h.symm.trans he) (by simp)
  · rintro ⟨items, hitems, hgathers⟩
    rw [alphabet_of_reads hne hitems, (gathers_unionOf hne hitems).unique hgathers]
  · rcases hreached with rfl | hstuck
    · exact absurd ((alphabet_of_reads hne hreads).symm.trans h) (by simp)
    · obtain ⟨other, hother, htells⟩ := tells_of_stuck hbody hreads hstuck
      obtain rfl := Except.error.inj (h.symm.trans hother)
      exact ⟨read, reached, hreads, hstuck, htells⟩
  · rintro ⟨items, place, hplace, hstuck, htells⟩
    obtain ⟨other, hother, hothers⟩ := tells_of_stuck hbody hplace hstuck
    rw [hother, hothers.unique htells]
  · exact unionOf_ne_nil_of_readItems hne h
  · intro items first last behind h hfirstBackslash hfirstHyphen hlastBackslash hlastHyphen
    obtain ⟨front, rfl⟩ := h.suffix
    rw [mem_alphanumeric_iff, mem_alphanumeric_iff]
    exact ⟨isAlphanum_of_isBodyChar (hbody first (by simp)) hfirstHyphen hfirstBackslash,
      isAlphanum_of_isBodyChar (hbody last (by simp)) hlastHyphen hlastBackslash⟩

/-- Spans and classes that overlap make one alphabet; behind an item, a span in the wrong order is
told before the hyphen that follows it. -/
theorem alphabet_follows_grammar_overlapping :
    ("b-da\\dc-e".toList ≠ [] ∧ (∀ c ∈ "b-da\\dc-e".toList, isBodyChar c = true) ∧
      ∃ items, Reads "b-da\\dc-e".toList items [] ∧ Gathers items "bcda0123456789e".toList) ∧
    "xz-a-".toList ≠ [] ∧ (∀ c ∈ "xz-a-".toList, isBodyChar c = true) ∧
      alphabet "xz-a-".toList = .error (.reversedSpan 'z' 'a') := by
  have hfirst : ∀ c ∈ "b-da\\dc-e".toList, isBodyChar c = true := List.all_eq_true.mp rfl
  have hsecond : ∀ c ∈ "xz-a-".toList, isBodyChar c = true := List.all_eq_true.mp rfl
  refine ⟨⟨by decide, hfirst, ?_⟩, by decide, hsecond, ?_⟩
  · exact ((alphabet_follows_grammar (by decide) hfirst).1 _).mp rfl
  · have hreversed : Reversed ['z', '-', 'a', '-'] 'z' 'a' :=
      ⟨by decide, by decide, by decide, ['-'], rfl⟩
    refine ((alphabet_follows_grammar (by decide) hsecond).2.1 _).mpr
      ⟨[.single 'x'], ['z', '-', 'a', '-'], .next (.single (by decide) (by decide)) (.here _),
        ⟨by decide, ?_⟩,
        ⟨fun first last h => ?_, fun hnone => absurd hreversed (hnone _ _)⟩⟩
    · intro item behind h
      cases h with
      | span _ _ hle => exact absurd hle (by decide)
      | single _ hnext => exact hnext rfl
    · obtain ⟨rfl, rfl⟩ := h.eq
      rfl

end ResourceTemplate.Expression

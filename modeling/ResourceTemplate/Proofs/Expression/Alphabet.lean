import Mathlib.Data.List.Basic
import ResourceTemplate.Expression.Alphabet
import ResourceTemplate.Proofs.Outcome

/-!
# Bodies as lists of items

A body has an alphabet exactly when it is a list of items, one at least: a backslash and a letter
name a class, a hyphen between two characters makes a span of them if they stand in the right order,
and any other character that no hyphen follows stands for itself.  No item is without characters,
and so no alphabet is.
-/

namespace ResourceTemplate.Expression

/-- A body lists items, from left to right. -/
inductive Lists : List Char → List Item → Prop
  | nil : Lists [] []
  | charClass {letter : Char} {c : CharClass} {rest : List Char} {items : List Item}
      (hletter : CharClass.ofLetter? letter = some c) (h : Lists rest items) :
      Lists ('\\' :: letter :: rest) (.charClass c :: items)
  | span {first last : Char} {rest : List Char} {items : List Item}
      (hspan : isSpan first last = true) (h : Lists rest items) :
      Lists (first :: '-' :: last :: rest) (.span first last :: items)
  | single {c : Char} {rest : List Char} {items : List Item} (hbackslash : c ≠ '\\') (hhyphen : c ≠ '-')
      (hnext : rest.head? ≠ some '-') (h : Lists rest items) : Lists (c :: rest) (.single c :: items)

/-- A body lists items, one at least. -/
def Listed (body : List Char) : Prop := ∃ items, items ≠ [] ∧ Lists body items

/-! ## Reading -/

theorem isSpan_iff {first last : Char} : isSpan first last = true ↔
    first ∈ alphanumeric ∧ last ∈ alphanumeric ∧
      alphanumeric.idxOf first ≤ alphanumeric.idxOf last := by
  simp only [isSpan, Bool.and_eq_true, List.contains_iff_mem, decide_eq_true_eq, and_assoc]

theorem ne_of_mem_alphanumeric {c : Char} (h : c ∈ alphanumeric) : c ≠ '\\' ∧ c ≠ '-' := by
  constructor <;> rintro rfl <;> exact absurd h (by decide)

theorem lists_of_readItems {body : List Char} {items : List Item} (h : readItems body = .ok items) :
    Lists body items := by
  fun_induction readItems body generalizing items with
  | case1 =>
      obtain rfl := Except.ok.inj h
      exact .nil
  | case4 letter rest c hletter ih =>
      obtain ⟨later, hlater, rfl⟩ := exists_of_map_eq_ok h
      exact .charClass hletter (ih hlater)
  | case8 first last rest hbackslash hhyphen hmarks hspan ih =>
      obtain ⟨later, hlater, rfl⟩ := exists_of_map_eq_ok h
      exact .span hspan (ih hlater)
  | case10 c rest hend hletter hhyphen hopen hspan ih =>
      obtain ⟨later, hlater, rfl⟩ := exists_of_map_eq_ok h
      -- A hyphen behind the character would have made a span of it, or nothing at all.
      refine .single ?_ hhyphen ?_ (ih hlater)
      · rintro rfl
        cases rest with
        | nil => exact hend rfl rfl
        | cons letter rest => exact hletter letter rest rfl rfl
      · intro hnext
        obtain ⟨rest, rfl⟩ := List.head?_eq_some_iff.mp hnext
        cases rest with
        | nil => exact hopen rfl
        | cons last rest => exact hspan last rest rfl
  | case2 | case3 | case5 | case6 | case7 | case9 => exact absurd h (by simp)

theorem readItems_of_lists {body : List Char} {items : List Item} (h : Lists body items) :
    readItems body = .ok items := by
  induction h with
  | nil => rfl
  | charClass hletter h ih => simp only [readItems, hletter, ih, Except.map]
  | span hspan h ih =>
      obtain ⟨hfirst, hlast, -⟩ := isSpan_iff.mp hspan
      have hends := ne_of_mem_alphanumeric hfirst
      have hmarks := ne_of_mem_alphanumeric hlast
      rw [readItems]
      · simp only [hmarks, or_self, if_false, hspan, if_true, ih, Except.map]
      · exact hends.1
      · exact hends.2
  | single hbackslash hhyphen hnext h ih =>
      rw [readItems]
      · simp only [ih, Except.map]
      · exact fun hc _ => hbackslash hc
      · exact fun _ _ hc _ => hbackslash hc
      · exact hhyphen
      · rintro rfl
        exact hnext rfl
      · rintro last rest rfl
        exact hnext rfl

theorem readItems_eq_ok {body : List Char} {items : List Item} :
    readItems body = .ok items ↔ Lists body items :=
  ⟨lists_of_readItems, readItems_of_lists⟩

/-! ## Characters of items -/

theorem Item.chars_ne_nil {body : List Char} {items : List Item} (h : Lists body items) :
    ∀ item ∈ items, item.chars ≠ [] := by
  induction h with
  | nil => simp
  | @charClass letter c rest items hletter h ih =>
      refine List.forall_mem_cons.mpr ⟨?_, ih⟩
      cases c <;> decide
  | span hspan h ih =>
      refine List.forall_mem_cons.mpr ⟨?_, ih⟩
      obtain ⟨-, hlast, hle⟩ := isSpan_iff.mp hspan
      have hlt := List.idxOf_lt_length_of_mem hlast
      rw [Item.chars, spanChars, ← List.length_pos_iff, List.length_drop, List.length_take]
      omega
  | single hbackslash hhyphen hnext h ih => exact List.forall_mem_cons.mpr ⟨by simp [Item.chars], ih⟩

theorem mem_extendUnique {known new : List Char} {c : Char} :
    c ∈ extendUnique known new ↔ c ∈ known ∨ c ∈ new := by
  unfold extendUnique
  induction new generalizing known with
  | nil => simp
  | cons d new ih =>
      rw [List.foldl_cons, ih, List.mem_cons, ← or_assoc]
      refine or_congr_left ?_
      split
      next hknown =>
        refine ⟨Or.inl, ?_⟩
        rintro (hmem | rfl)
        · exact hmem
        · exact List.contains_iff_mem.mp hknown
      next => simp

/-- The union has the characters of the items and no others. -/
theorem mem_unionOf {items : List Item} {c : Char} :
    c ∈ unionOf items ↔ ∃ item ∈ items, c ∈ item.chars := by
  have hfold : ∀ known : List Char,
      c ∈ items.foldl (fun acc item => extendUnique acc item.chars) known ↔
        c ∈ known ∨ ∃ item ∈ items, c ∈ item.chars := by
    induction items with
    | nil => simp
    | cons item items ih => simp [ih, mem_extendUnique, or_assoc]
  simpa [unionOf] using hfold []

theorem unionOf_ne_nil {body : List Char} {items : List Item} (h : Lists body items)
    (hne : items ≠ []) : unionOf items ≠ [] := by
  obtain ⟨item, hitem⟩ := List.exists_mem_of_ne_nil items hne
  obtain ⟨c, hc⟩ := List.exists_mem_of_ne_nil _ (Item.chars_ne_nil h item hitem)
  exact List.ne_nil_of_mem (mem_unionOf.mpr ⟨item, hitem, hc⟩)

theorem nodup_extendUnique {known : List Char} (new : List Char) (h : known.Nodup) :
    (extendUnique known new).Nodup := by
  unfold extendUnique
  induction new generalizing known with
  | nil => exact h
  | cons d new ih =>
      rw [List.foldl_cons]
      split
      next => exact ih h
      next hknown =>
        have hnew : d ∉ known := fun hmem => hknown (List.contains_iff_mem.mpr hmem)
        refine ih (List.nodup_append.mpr ⟨h, by simp, ?_⟩)
        rintro c hc _ hd rfl
        exact hnew (List.mem_singleton.mp hd ▸ hc)

/-- The union has every character once. -/
theorem nodup_unionOf (items : List Item) : (unionOf items).Nodup := by
  unfold unionOf
  refine List.foldlRecOn items _ List.nodup_nil ?_
  intro known h item _
  exact nodup_extendUnique item.chars h

/-- A body has an alphabet when it lists items, and the alphabet is their union. -/
theorem alphabet_eq_ok {body symbols : List Char} :
    alphabet body = .ok symbols ↔
      ∃ items, items ≠ [] ∧ Lists body items ∧ unionOf items = symbols := by
  constructor
  · intro h
    unfold alphabet at h
    dsimp only at h
    split at h
    · exact absurd h (by simp)
    · exact absurd h (by simp)
    next items hread =>
      split at h
      · exact absurd h (by simp)
      next c cs hcons =>
        refine ⟨items, ?_, readItems_eq_ok.mp hread, hcons.trans (Except.ok.inj h)⟩
        rintro rfl
        exact absurd hcons (by simp [unionOf])
  · rintro ⟨items, hne, hitems, rfl⟩
    unfold alphabet
    simp only [readItems_eq_ok.mpr hitems]
    split
    next hnil => exact absurd hnil (unionOf_ne_nil hitems hne)
    next c cs hcons => rw [hcons]

theorem listed_iff {body : List Char} : Listed body ↔ ∃ symbols, alphabet body = .ok symbols := by
  constructor
  · rintro ⟨items, hne, hitems⟩
    exact ⟨_, alphabet_eq_ok.mpr ⟨items, hne, hitems, rfl⟩⟩
  · rintro ⟨symbols, h⟩
    obtain ⟨items, hne, hitems, -⟩ := alphabet_eq_ok.mp h
    exact ⟨items, hne, hitems⟩

theorem alphabet_ne_nil {body symbols : List Char} (h : alphabet body = .ok symbols) :
    symbols ≠ [] := by
  obtain ⟨items, hne, hitems, rfl⟩ := alphabet_eq_ok.mp h
  exact unionOf_ne_nil hitems hne

end ResourceTemplate.Expression

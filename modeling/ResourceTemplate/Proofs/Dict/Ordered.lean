import Mathlib.Data.List.Forall2
import Mathlib.Data.List.Induction
import Mathlib.Data.String.Basic
import ResourceTemplate.Dict

/-!
# Dictionaries in order

Insertion and removal keep the keys of a dictionary in strictly increasing order, and a dictionary
that is made of a list of entries has them in that order from the start.  In an ordered dictionary a
change that changes no lookup changes nothing at all.

In a dictionary made of a list of entries the last entry of a key counts.
-/

namespace ResourceTemplate.Dict

variable {α : Type}

/-! ## Order -/

theorem eq_or_mem_of_mem_insert {d : Dict α} {key : String} {value : α} {entry : String × α}
    (h : entry ∈ insert d key value) : entry = (key, value) ∨ entry ∈ d := by
  induction d with
  | nil => exact Or.inl (List.mem_singleton.mp h)
  | cons first rest ih =>
      obtain ⟨k, v⟩ := first
      unfold insert at h
      split at h
      · rcases List.mem_cons.mp h with h | h
        · exact Or.inl h
        · exact Or.inr h
      · split at h
        · rcases List.mem_cons.mp h with h | h
          · exact Or.inl h
          · exact Or.inr (List.mem_cons_of_mem _ h)
        · rcases List.mem_cons.mp h with rfl | h
          · exact Or.inr List.mem_cons_self
          · exact (ih h).imp_right (List.mem_cons_of_mem _)

theorem Ordered.insert {d : Dict α} (h : Ordered d) (key : String) (value : α) :
    Ordered (d.insert key value) := by
  induction d with
  | nil => exact List.pairwise_singleton _ _
  | cons first rest ih =>
      obtain ⟨k, v⟩ := first
      obtain ⟨hfirst, hrest⟩ := List.pairwise_cons.mp h
      unfold Dict.insert
      split
      next hlt =>
        refine List.pairwise_cons.mpr ⟨?_, h⟩
        intro entry hentry
        rcases List.mem_cons.mp hentry with rfl | hentry
        · exact hlt
        · exact lt_trans hlt (hfirst entry hentry)
      next hnot =>
        split
        next heq =>
          subst heq
          exact List.pairwise_cons.mpr ⟨hfirst, hrest⟩
        next hne =>
          -- The key goes behind the first one, which is smaller.
          have hgt : k < key := lt_of_le_of_ne (not_lt.mp hnot) hne
          refine List.pairwise_cons.mpr ⟨?_, ih hrest⟩
          intro entry hentry
          rcases eq_or_mem_of_mem_insert hentry with rfl | hentry
          · exact hgt
          · exact hfirst entry hentry

theorem Ordered.erase {d : Dict α} (h : Ordered d) (key : String) : Ordered (d.erase key) :=
  List.Pairwise.filter _ h

theorem ofList_concat (entries : List (String × α)) (entry : String × α) :
    ofList (entries ++ [entry]) = (ofList entries).insert entry.1 entry.2 := by
  unfold ofList
  rw [List.foldl_append]
  rfl

theorem ordered_foldl_insert (entries : List (String × α)) {d : Dict α} (h : Ordered d) :
    Ordered (entries.foldl (fun d entry => d.insert entry.1 entry.2) d) := by
  induction entries generalizing d with
  | nil => exact h
  | cons entry rest ih => exact ih (h.insert entry.1 entry.2)

theorem ordered_ofList (entries : List (String × α)) : Ordered (ofList entries) :=
  ordered_foldl_insert entries List.Pairwise.nil

theorem mem_of_mem_ofList {entries : List (String × α)} {entry : String × α}
    (h : entry ∈ ofList entries) : entry ∈ entries := by
  induction entries using List.reverseRecOn with
  | nil => exact absurd h List.not_mem_nil
  | append_singleton entries last ih =>
      rw [ofList_concat] at h
      rcases eq_or_mem_of_mem_insert h with rfl | h
      · exact List.mem_append_right _ (List.mem_singleton.mpr rfl)
      · exact List.mem_append_left _ (ih h)

/-! ## Lookups -/

theorem find?_insert (d : Dict α) (key other : String) (value : α) :
    find? (d.insert key value) other = if key = other then some value else find? d other := by
  split
  next heq => rw [← heq, find?_insert_self]
  next hne => exact find?_insert_of_ne d value hne

theorem find?_erase (d : Dict α) (key other : String) :
    find? (d.erase key) other = if key = other then none else find? d other := by
  split
  next heq => rw [← heq, find?_erase_self]
  next hne => exact find?_erase_of_ne d hne

/-- What is found under a key in two lists of entries that have the same keys. -/
theorem rel_find?_of_forall₂ {β : Type} {related : α → β → Prop} {d : Dict α} {e : Dict β}
    (h : List.Forall₂ (fun entry other => other.1 = entry.1 ∧ related entry.2 other.2) d e)
    (key : String) : Option.Rel related (find? d key) (find? e key) := by
  induction h with
  | nil => exact .none
  | @cons entry other rest others hentry _ ih =>
      obtain ⟨hkey, hvalue⟩ := hentry
      by_cases hfound : entry.1 = key
      · simpa [find?, hkey, hfound] using Option.Rel.some hvalue
      · simpa [find?, hkey, hfound] using ih

theorem mem_of_find? {d : Dict α} {key : String} {value : α} (h : find? d key = some value) :
    (key, value) ∈ d := by
  induction d with
  | nil => simp at h
  | cons first rest ih =>
      obtain ⟨k, v⟩ := first
      by_cases hk : k = key
      · simp only [find?, hk, if_true, Option.some.injEq] at h
        rw [hk, h]
        exact List.mem_cons_self
      · simp only [find?, hk, if_false] at h
        exact List.mem_cons_of_mem _ (ih h)

theorem fst_ne_of_find?_eq_none {d : Dict α} {key : String} (h : find? d key = none)
    {entry : String × α} (hentry : entry ∈ d) : entry.1 ≠ key := by
  induction d with
  | nil => exact absurd hentry List.not_mem_nil
  | cons first rest ih =>
      obtain ⟨k, v⟩ := first
      by_cases hk : k = key
      · simp [find?, hk] at h
      · simp only [find?, hk, if_false] at h
        rcases List.mem_cons.mp hentry with rfl | hentry
        · exact hk
        · exact ih h hentry

theorem find?_eq_none_of_forall_ne {d : Dict α} {key : String} (h : ∀ entry ∈ d, entry.1 ≠ key) :
    find? d key = none := by
  cases hfind : find? d key with
  | none => rfl
  | some value => exact absurd rfl (h (key, value) (mem_of_find? hfind))

theorem Ordered.find?_of_mem {d : Dict α} (h : Ordered d) {key : String} {value : α}
    (hmem : (key, value) ∈ d) : find? d key = some value := by
  induction d with
  | nil => exact absurd hmem List.not_mem_nil
  | cons first rest ih =>
      obtain ⟨hfirst, hrest⟩ := List.pairwise_cons.mp h
      rcases List.mem_cons.mp hmem with rfl | hmem
      · simp [find?]
      · have hne : first.1 ≠ key := ne_of_lt (hfirst (key, value) hmem)
        simp [find?, hne, ih hrest hmem]

theorem Ordered.mem_iff {d : Dict α} (h : Ordered d) {entry : String × α} :
    entry ∈ d ↔ find? d entry.1 = some entry.2 :=
  ⟨h.find?_of_mem, mem_of_find?⟩

/-- Two dictionaries in order in which the same is found are the same. -/
theorem Ordered.ext {d e : Dict α} (hd : Ordered d) (he : Ordered e)
    (h : ∀ key, find? d key = find? e key) : d = e := by
  have hperm : d.Perm e := by
    refine (List.perm_ext_iff_of_nodup ?_ ?_).mpr fun entry => ?_
    · exact hd.imp fun hlt heq => absurd (congrArg Prod.fst heq) (ne_of_lt hlt)
    · exact he.imp fun hlt heq => absurd (congrArg Prod.fst heq) (ne_of_lt hlt)
    · rw [hd.mem_iff, he.mem_iff, h]
  refine hperm.eq_of_pairwise (fun a b _ _ hab hba => ?_) hd he
  exact absurd hab (lt_asymm hba)

theorem find?_ofList_concat (entries : List (String × α)) (entry : String × α) (key : String) :
    find? (ofList (entries ++ [entry])) key =
      if entry.1 = key then some entry.2 else find? (ofList entries) key := by
  rw [ofList_concat, find?_insert]

/-- What is found under a key does not depend on an entry of another key. -/
theorem find?_ofList_of_ne {key other : String} (h : key ≠ other) (value : α)
    (before after : List (String × α)) :
    find? (ofList (before ++ (key, value) :: after)) other =
      find? (ofList (before ++ after)) other := by
  induction after using List.reverseRecOn with
  | nil => rw [find?_ofList_concat, if_neg h, List.append_nil]
  | append_singleton after last ih =>
      rw [← List.cons_append, ← List.append_assoc, ← List.append_assoc, find?_ofList_concat,
        find?_ofList_concat, ih]

/-- A key of which all entries have one value has that value. -/
theorem find?_ofList_of_unique {entries : List (String × α)} {key : String} {value : α}
    (hmem : (key, value) ∈ entries) (hunique : ∀ other, (key, other) ∈ entries → other = value) :
    find? (ofList entries) key = some value := by
  induction entries using List.reverseRecOn with
  | nil => exact absurd hmem List.not_mem_nil
  | append_singleton entries entry ih =>
      obtain ⟨k, v⟩ := entry
      rw [find?_ofList_concat]
      by_cases hk : k = key
      · have hv : v = value := hunique v (by simp [hk])
        simp [hk, hv]
      · rw [if_neg hk]
        have hbefore : (key, value) ∈ entries := by
          rcases List.mem_append.mp hmem with hmem | hmem
          · exact hmem
          · have hsame := List.mem_singleton.mp hmem
            exact absurd (congrArg Prod.fst hsame).symm hk
        exact ih hbefore fun other hother => hunique other (List.mem_append_left _ hother)

/-- In a dictionary made of entries, the last entry of a key is found. -/
theorem find?_ofList_eq_some {entries : List (String × α)} {key : String} {value : α}
    (h : find? (ofList entries) key = some value) :
    ∃ before after, entries = before ++ (key, value) :: after ∧ ∀ entry ∈ after, entry.1 ≠ key := by
  induction entries using List.reverseRecOn with
  | nil => exact absurd h (by simp [ofList])
  | append_singleton entries last ih =>
      obtain ⟨k, v⟩ := last
      rw [find?_ofList_concat] at h
      by_cases hk : k = key
      · rw [if_pos hk] at h
        refine ⟨entries, [], ?_, by simp⟩
        rw [← hk, ← Option.some.inj h]
      · rw [if_neg hk] at h
        obtain ⟨before, after, rfl, hafter⟩ := ih h
        refine ⟨before, after ++ [(k, v)], by simp, fun entry hentry => ?_⟩
        rcases List.mem_append.mp hentry with hentry | hentry
        · exact hafter entry hentry
        · obtain rfl := List.mem_singleton.mp hentry
          exact hk

/-- Every key of the entries is a key of the dictionary that is made of them. -/
theorem fst_mem_ofList {entries : List (String × α)} {entry : String × α}
    (h : entry ∈ entries) : entry.1 ∈ (ofList entries).map Prod.fst := by
  cases hfind : find? (ofList entries) entry.1 with
  | some value => exact List.mem_map.mpr ⟨_, mem_of_find? hfind, rfl⟩
  | none =>
      induction entries using List.reverseRecOn with
      | nil => exact absurd h List.not_mem_nil
      | append_singleton entries last ih =>
          rw [find?_ofList_concat] at hfind
          split at hfind
          next => exact absurd hfind (by simp)
          next hne =>
            rcases List.mem_append.mp h with h | h
            · have hmem := ih h hfind
              obtain ⟨found, hfound, hkey⟩ := List.mem_map.mp hmem
              exact absurd hkey (fst_ne_of_find?_eq_none hfind hfound)
            · obtain rfl := List.mem_singleton.mp h
              exact absurd rfl hne

/-- When the keys of a dictionary in order are changed, the value under a new key is that of the
greatest key that came to it. -/
theorem Ordered.find?_ofList_map_iff {β : Type} {d : Dict α} (h : Ordered d) (f : String → String)
    (g : α → β) {key : String} {value : β} :
    find? (ofList (d.map fun entry => (f entry.1, g entry.2))) key = some value ↔
      ∃ entry ∈ d, f entry.1 = key ∧ g entry.2 = value ∧
        ∀ other ∈ d, f other.1 = key → other.1 ≤ entry.1 := by
  have hlast : ∀ {value : β},
      find? (ofList (d.map fun entry => (f entry.1, g entry.2))) key = some value →
        ∃ entry ∈ d, f entry.1 = key ∧ g entry.2 = value ∧
          ∀ other ∈ d, f other.1 = key → other.1 ≤ entry.1 := by
    intro value hfind
    obtain ⟨before, after, hsplit, hafter⟩ := find?_ofList_eq_some hfind
    obtain ⟨front, behind, rfl, -, hbehind⟩ := List.map_eq_append_iff.mp hsplit
    obtain ⟨entry, rest, rfl, hentry, hrest⟩ := List.map_eq_cons_iff.mp hbehind
    refine ⟨entry, by simp, congrArg Prod.fst hentry, congrArg Prod.snd hentry, ?_⟩
    intro other hother hkey
    rcases List.mem_append.mp hother with hother | hother
    · exact le_of_lt ((List.pairwise_append.mp h).2.2 other hother entry (by simp))
    · rcases List.mem_cons.mp hother with rfl | hother
      · exact le_refl _
      · -- No key behind the last one comes to the same.
        have hmem : (f other.1, g other.2) ∈ after := hrest ▸ List.mem_map.mpr ⟨other, hother, rfl⟩
        exact absurd hkey (hafter _ hmem)
  refine ⟨hlast, ?_⟩
  rintro ⟨entry, hentry, hkey, rfl, hgreatest⟩
  obtain ⟨found, hfound, hsame⟩ :=
    List.mem_map.mp (fst_mem_ofList (List.mem_map_of_mem (f := fun e => (f e.1, g e.2)) hentry))
  have hfind := (ordered_ofList _).mem_iff.mp hfound
  rw [hsame, hkey] at hfind
  obtain ⟨other, hother, hotherKey, hvalue, hothers⟩ := hlast hfind
  have heq : other.1 = entry.1 :=
    le_antisymm (hgreatest other hother hotherKey) (hothers entry hentry hkey)
  have hentries := h.mem_iff.mp hother
  rw [heq, h.mem_iff.mp hentry] at hentries
  rw [hfind, ← hvalue, Option.some.inj hentries]

/-! ## Changes that change nothing -/

theorem Ordered.insert_of_find? {d : Dict α} (h : Ordered d) {key : String} {value : α}
    (hfind : find? d key = some value) : d.insert key value = d := by
  induction d with
  | nil => simp at hfind
  | cons first rest ih =>
      obtain ⟨k, v⟩ := first
      obtain ⟨hfirst, hrest⟩ := List.pairwise_cons.mp h
      by_cases hk : k = key
      · subst hk
        simp only [find?, if_true, Option.some.injEq] at hfind
        simp [Dict.insert, hfind]
      · simp only [find?, hk, if_false] at hfind
        -- The entry stands further down, so its key is the larger one.
        have hlt : k < key := hfirst _ (mem_of_find? hfind)
        have hnot : ¬key < k := lt_asymm hlt
        simp only [Dict.insert, hnot, hk, if_false, ih hrest hfind]

/-- In an ordered dictionary the value of a key is changed in its place. -/
theorem Ordered.map_eq_insert {d : Dict α} (h : Ordered d) {key : String} {value : α}
    (hfind : find? d key = some value) (f : α → α) :
    (d.map fun entry => if entry.1 = key then (entry.1, f entry.2) else entry) =
      d.insert key (f value) := by
  induction d with
  | nil => simp at hfind
  | cons first rest ih =>
      obtain ⟨k, v⟩ := first
      obtain ⟨hfirst, hrest⟩ := List.pairwise_cons.mp h
      by_cases hk : k = key
      · subst hk
        simp only [find?, if_true, Option.some.injEq] at hfind
        subst hfind
        have hothers : ∀ entry ∈ rest, (if entry.1 = k then (entry.1, f entry.2) else entry) = entry :=
          fun entry hentry => if_neg (ne_of_gt (hfirst entry hentry))
        simp only [List.map_cons, Dict.insert, lt_irrefl, if_true, if_false,
          List.map_congr_left hothers, List.map_id']
      · simp only [find?, hk, if_false] at hfind
        have hnot : ¬key < k := lt_asymm (hfirst _ (mem_of_find? hfind))
        simp only [List.map_cons, Dict.insert, hnot, hk, if_false, ih hrest hfind]

/-- Behind all other keys, an entry is stored at the end. -/
theorem insert_of_forall_lt {d : Dict α} {key : String} (h : ∀ entry ∈ d, entry.1 < key)
    (value : α) : d.insert key value = d ++ [(key, value)] := by
  induction d with
  | nil => rfl
  | cons first rest ih =>
      obtain ⟨k, v⟩ := first
      have hlt : k < key := h (k, v) List.mem_cons_self
      have hnot : ¬key < k := lt_asymm hlt
      have hne : k ≠ key := ne_of_lt hlt
      simp only [Dict.insert, hnot, hne, if_false, List.cons_append]
      rw [ih fun entry hentry => h entry (List.mem_cons_of_mem _ hentry)]

/-- A dictionary in order is the dictionary of its entries. -/
theorem Ordered.ofList_eq {d : Dict α} (h : Ordered d) : ofList d = d := by
  induction d using List.reverseRecOn with
  | nil => rfl
  | append_singleton entries entry ih =>
      obtain ⟨hentries, -, hlast⟩ := List.pairwise_append.mp h
      rw [ofList_concat, ih hentries]
      exact insert_of_forall_lt (fun other hother => hlast other hother entry (by simp)) entry.2

/-- Entries of which the keys stand in order in some arrangement make the dictionary that is so
arranged. -/
theorem Ordered.ofList_eq_of_perm {entries : List (String × α)} {d : Dict α} (h : Ordered d)
    (hperm : entries.Perm d) : ofList entries = d := by
  refine (ordered_ofList entries).ext h fun key => ?_
  cases hfind : find? d key with
  | none =>
      refine find?_eq_none_of_forall_ne fun entry hentry => ?_
      exact fst_ne_of_find?_eq_none hfind (hperm.mem_iff.mp (mem_of_mem_ofList hentry))
  | some value =>
      refine find?_ofList_of_unique (hperm.mem_iff.mpr (mem_of_find? hfind)) fun other hother => ?_
      have hsame := h.find?_of_mem (hperm.mem_iff.mp hother)
      exact Option.some.inj (hsame.symm.trans hfind)

/-! ## Dictionaries that are built in order -/

section Append

variable {before rest : Dict α} {key : String} {value : α}

theorem fst_lt_of_ordered_append (h : Ordered (before ++ (key, value) :: rest))
    {entry : String × α} (hentry : entry ∈ before) : entry.1 < key :=
  (List.pairwise_append.mp h).2.2 entry hentry (key, value) List.mem_cons_self

/-- What comes behind all that was stored before is stored at the end. -/
theorem insert_of_ordered_append (h : Ordered (before ++ (key, value) :: rest)) (other : α) :
    before.insert key other = before ++ [(key, other)] :=
  insert_of_forall_lt (fun _ hentry => fst_lt_of_ordered_append h hentry) other

theorem erase_of_ordered_append (h : Ordered (before ++ (key, value) :: rest)) :
    before.erase key = before :=
  List.filter_eq_self.mpr fun _ hentry =>
    decide_eq_true (ne_of_lt (fst_lt_of_ordered_append h hentry))

theorem ordered_append_drop (h : Ordered (before ++ (key, value) :: rest)) :
    Ordered (before ++ rest) :=
  List.Pairwise.sublist ((List.sublist_cons_self _ rest).append_left before) h

/-- The order does not depend on the values. -/
theorem ordered_append_replace (h : Ordered (before ++ (key, value) :: rest)) (other : α) :
    Ordered ((before ++ [(key, other)]) ++ rest) := by
  obtain ⟨hbefore, hafter, hbetween⟩ := List.pairwise_append.mp h
  obtain ⟨hfirst, hrest⟩ := List.pairwise_cons.mp hafter
  rw [List.append_assoc]
  refine List.pairwise_append.mpr ⟨hbefore, List.pairwise_cons.mpr ⟨hfirst, hrest⟩, ?_⟩
  intro entry hentry later hlater
  rcases List.mem_cons.mp hlater with rfl | hlater
  · exact fst_lt_of_ordered_append h hentry
  · exact hbetween entry hentry later (List.mem_cons_of_mem _ hlater)

end Append

/-! ## Dictionaries over each other -/

/-- Entries that are stored one after the other in a dictionary. -/
theorem find?_foldl_insert (entries : List (String × α)) (d : Dict α) (key : String) :
    find? (entries.foldl (fun d entry => insert d entry.1 entry.2) d) key =
      (find? (ofList entries) key).or (find? d key) := by
  induction entries using List.reverseRecOn with
  | nil => simp [ofList]
  | append_singleton entries last ih =>
      rw [List.foldl_append, List.foldl_cons, List.foldl_nil, find?_ofList_concat, find?_insert, ih]
      split <;> rfl

end ResourceTemplate.Dict

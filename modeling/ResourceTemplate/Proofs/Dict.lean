import Mathlib.Data.String.Basic
import ResourceTemplate.Dict

/-!
# Order of changes to a dictionary

Storing twice under one key keeps the later value, and changes under two keys commute.  Neither
needs the dictionary to be in order: an insertion looks only at the keys before the place that it
takes.
-/

namespace ResourceTemplate.Dict

variable {α : Type}

theorem insert_insert_self (d : Dict α) (key : String) (first second : α) :
    insert (insert d key first) key second = insert d key second := by
  induction d with
  | nil => simp [insert]
  | cons entry rest ih =>
      obtain ⟨k, v⟩ := entry
      by_cases hlt : key < k
      · simp [insert, hlt]
      · by_cases heq : k = key
        · simp [insert, heq]
        · simp [insert, hlt, heq, ih]

theorem insert_insert_of_lt (d : Dict α) {small large : String} (h : small < large) (v w : α) :
    insert (insert d large w) small v = insert (insert d small v) large w := by
  have hnot : ¬large < small := lt_asymm h
  have hne : small ≠ large := ne_of_lt h
  induction d with
  | nil => simp [insert, h, hnot, hne]
  | cons entry rest ih =>
      obtain ⟨k, old⟩ := entry
      by_cases hlarge : large < k
      · have hsmall : small < k := lt_trans h hlarge
        simp [insert, hlarge, hsmall, h, hnot, hne]
      · by_cases hkLarge : k = large
        · subst hkLarge
          simp [insert, h, hnot, hne]
        · -- The larger key goes further down; the smaller one may still take its place here.
          by_cases hsmall : small < k
          · simp [insert, hlarge, hkLarge, hsmall, hnot, hne]
          · by_cases hkSmall : k = small
            · subst hkSmall
              simp [insert, hnot, hne]
            · simp [insert, hlarge, hkLarge, hsmall, hkSmall, ih]

theorem erase_cons (k : String) (v : α) (rest : Dict α) (key : String) :
    erase ((k, v) :: rest) key = if k = key then erase rest key else (k, v) :: erase rest key := by
  by_cases h : k = key
  · simp [erase, h]
  · simp [erase, h]

theorem erase_insert_of_lt (d : Dict α) {small large : String} (h : small < large) (w : α) :
    erase (insert d large w) small = insert (erase d small) large w := by
  have hnot : ¬large < small := lt_asymm h
  have hne : ¬large = small := ne_of_gt h
  induction d with
  | nil => simp [insert, erase, hne]
  | cons entry rest ih =>
      obtain ⟨k, old⟩ := entry
      by_cases hkSmall : k = small
      · -- The insertion passes the entry that is erased, since its key is the smaller one.
        subst hkSmall
        simp [insert, erase_cons, hnot, Ne.symm hne, ih]
      · by_cases hlarge : large < k
        · simp [insert, erase_cons, hkSmall, hlarge, hne]
        · by_cases hkLarge : k = large
          · subst hkLarge
            simp [insert, erase_cons, hne]
          · simp [insert, erase_cons, hkSmall, hlarge, hkLarge, ih]

end ResourceTemplate.Dict

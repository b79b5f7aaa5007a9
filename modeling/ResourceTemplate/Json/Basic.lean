import ResourceTemplate.Dict
import ResourceTemplate.Number.Binary64

/-!
# JSON values

A number keeps the kind its literal gave it: a natural number below `2 ^ 64`, a negative integer
down to `-2 ^ 63`, or a double.  The members of an object are a dictionary, so they stand in key
order; `Json.Canonical` says so at every depth.  Whether two values are equal is decided part by part.
-/

namespace ResourceTemplate

/-- A JSON number of one of three kinds. -/
inductive Number where
  | natural (n : Nat)
  /-- The number `-(n + 1)`. -/
  | negative (n : Nat)
  | double (d : Binary64)
deriving DecidableEq

/-- A JSON value. -/
inductive Json where
  | null
  | bool (b : Bool)
  | number (n : Number)
  | string (s : String)
  | array (items : List Json)
  | object (members : List (String × Json))

namespace Json

instance : Inhabited Json := ⟨null⟩

/-! ## Equality -/

mutual

/-- Whether two values are equal. -/
def same : Json → Json → Bool
  | null, null => true
  | bool a, bool b => a = b
  | number m, number n => m = n
  | string s, string t => s = t
  | array items, array others => sameItems items others
  | object members, object others => sameMembers members others
  | _, _ => false

/-- Whether items are equal one by one. -/
def sameItems : List Json → List Json → Bool
  | [], [] => true
  | item :: items, other :: others => same item other && sameItems items others
  | _, _ => false

/-- Whether members are equal one by one. -/
def sameMembers : List (String × Json) → List (String × Json) → Bool
  | [], [] => true
  | (key, value) :: members, (otherKey, other) :: others =>
      key = otherKey && same value other && sameMembers members others
  | _, _ => false

end

mutual

theorem same_iff : ∀ value other : Json, same value other = true ↔ value = other
  | null, other => by cases other <;> simp [same]
  | bool _, other => by cases other <;> simp [same]
  | number _, other => by cases other <;> simp [same]
  | string _, other => by cases other <;> simp [same]
  | array items, other => by
      cases other with
      | array others => simp [same, sameItems_iff items others]
      | _ => simp [same]
  | object members, other => by
      cases other with
      | object others => simp [same, sameMembers_iff members others]
      | _ => simp [same]

theorem sameItems_iff : ∀ items others : List Json,
    sameItems items others = true ↔ items = others
  | [], others => by cases others <;> simp [sameItems]
  | item :: items, others => by
      cases others with
      | nil => simp [sameItems]
      | cons other others => simp [sameItems, same_iff item other, sameItems_iff items others]

theorem sameMembers_iff : ∀ members others : List (String × Json),
    sameMembers members others = true ↔ members = others
  | [], others => by cases others <;> simp [sameMembers]
  | (key, value) :: members, others => by
      cases others with
      | nil => simp [sameMembers]
      | cons other others =>
          obtain ⟨otherKey, other⟩ := other
          simp [sameMembers, same_iff value other, sameMembers_iff members others]

end

instance : DecidableEq Json := fun _ _ => decidable_of_iff _ (same_iff _ _)

/-! ## Parts of values -/

/-- The text of a string value. -/
def asString? : Json → Option String
  | string s => some s
  | _ => none

/-- The members of an object. -/
def asObject? : Json → Option (Dict Json)
  | object members => some members
  | _ => none

/-- The value of a member, when the value is an object that has it. -/
def get? (value : Json) (key : String) : Option Json :=
  match value with
  | object members => Dict.find? members key
  | _ => none

/-- The text of a member, when it is there and is a string. -/
def getString? (value : Json) (key : String) : Option String :=
  (value.get? key).bind asString?

/-- An integer as a number value. -/
def ofInt : Int → Json
  | .ofNat n => number (.natural n)
  | .negSucc n => number (.negative n)

mutual

/-- Every object in the value has its keys in strictly increasing order. -/
def Canonical : Json → Prop
  | object members => Dict.Ordered members ∧ CanonicalMembers members
  | array items => CanonicalItems items
  | _ => True

/-- Every item is canonical. -/
def CanonicalItems : List Json → Prop
  | [] => True
  | item :: rest => item.Canonical ∧ CanonicalItems rest

/-- Every member's value is canonical. -/
def CanonicalMembers : List (String × Json) → Prop
  | [] => True
  | (_, value) :: rest => value.Canonical ∧ CanonicalMembers rest

end

end Json

end ResourceTemplate

import Mathlib.Data.List.Forall2
import ResourceTemplate.Expansion.Basic
import ResourceTemplate.Proofs.Expansion.Reference
import ResourceTemplate.Proofs.Json.Canonical

/-!
# What substitution leaves

A substitution evaluates every text of a value, at any depth and the keys of objects included;
`Substituted` says what that comes to, without saying in which order it is done.  Values of names
that none of the texts refers to have no part in it, and are not told when it fails either.

Whatever the value, what comes out of a substitution is canonical: objects are built anew from their
members, and data is read from its written form.  On a canonical value of which no text refers to a
name that has a value, substitution changes nothing.
-/

namespace ResourceTemplate

namespace Json

mutual

/-- The texts in a value, the keys of objects among them. -/
def texts : Json → List String
  | string s => [s]
  | array items => textsOfItems items
  | object members => textsOfMembers members
  | _ => []

/-- The texts in all items. -/
def textsOfItems : List Json → List String
  | [] => []
  | item :: rest => item.texts ++ textsOfItems rest

/-- The texts in all members. -/
def textsOfMembers : List (String × Json) → List String
  | [] => []
  | (key, value) :: rest => key :: value.texts ++ textsOfMembers rest

end

theorem mem_textsOfMembers {members : List (String × Json)} {text : String} :
    text ∈ textsOfMembers members ↔ ∃ entry ∈ members, text = entry.1 ∨ text ∈ entry.2.texts := by
  induction members with
  | nil => simp [textsOfMembers]
  | cons entry rest ih =>
      obtain ⟨key, value⟩ := entry
      simp [textsOfMembers, ih, or_assoc]

end Json

namespace Expansion

/-! ## Every text is evaluated -/

/-- A value and what it comes to when every text in it is evaluated, at any depth.  The keys of an
object are evaluated as texts, and the object is built anew from its members. -/
inductive Substituted (values : Dict String) : Json → Json → Prop where
  | null : Substituted values .null .null
  | bool (b : Bool) : Substituted values (.bool b) (.bool b)
  | number (n : Number) : Substituted values (.number n) (.number n)
  | string {text : String} {done : Json} (h : substituteString values text = .ok done) :
      Substituted values (.string text) done
  | array {items done : List Json} (h : List.Forall₂ (Substituted values) items done) :
      Substituted values (.array items) (.array done)
  | object {members done : List (String × Json)}
      (hkeys : done.map Prod.fst = members.map fun entry => substituteText values entry.1)
      (hvalues : List.Forall₂ (Substituted values) (members.map Prod.snd) (done.map Prod.snd)) :
      Substituted values (.object members) (.object (Dict.ofList done))

mutual

/-- A substitution evaluates every text. -/
theorem substituted_of_substitute {values : Dict String} {value done : Json}
    (h : substitute values value = .ok done) : Substituted values value done := by
  match value with
  | .string text => exact .string h
  | .array items =>
      rw [substitute] at h
      obtain ⟨found, hitems, rfl⟩ := exists_of_map_eq_ok h
      exact .array (substituted_of_substituteItems hitems)
  | .object members =>
      rw [substitute] at h
      obtain ⟨found, hmembers, rfl⟩ := exists_of_map_eq_ok h
      obtain ⟨hkeys, hvalues⟩ := substituted_of_substituteMembers hmembers
      exact .object hkeys hvalues
  | .null =>
      obtain rfl := Except.ok.inj h
      exact .null
  | .bool b =>
      obtain rfl := Except.ok.inj h
      exact .bool b
  | .number n =>
      obtain rfl := Except.ok.inj h
      exact .number n

theorem substituted_of_substituteItems {values : Dict String} {items done : List Json}
    (h : substituteItems values items = .ok done) :
    List.Forall₂ (Substituted values) items done := by
  match items with
  | [] =>
      obtain rfl := Except.ok.inj h
      exact .nil
  | item :: rest =>
      rw [substituteItems] at h
      split at h
      next => exact absurd h (by simp)
      next first hfirst =>
        obtain ⟨others, hrest, rfl⟩ := exists_of_map_eq_ok h
        exact .cons (substituted_of_substitute hfirst) (substituted_of_substituteItems hrest)

theorem substituted_of_substituteMembers {values : Dict String} {members done : List (String × Json)}
    (h : substituteMembers values members = .ok done) :
    (done.map Prod.fst = members.map fun entry => substituteText values entry.1) ∧
      List.Forall₂ (Substituted values) (members.map Prod.snd) (done.map Prod.snd) := by
  match members with
  | [] =>
      obtain rfl := Except.ok.inj h
      exact ⟨rfl, .nil⟩
  | (key, value) :: rest =>
      rw [substituteMembers] at h
      split at h
      next => exact absurd h (by simp)
      next first hfirst =>
        obtain ⟨others, hrest, rfl⟩ := exists_of_map_eq_ok h
        obtain ⟨hkeys, hvalues⟩ := substituted_of_substituteMembers hrest
        exact ⟨congrArg (substituteText values key :: ·) hkeys,
          .cons (substituted_of_substitute hfirst) hvalues⟩

end

/-! ## Only the names that are referred to count -/

section Agreement

variable {values others : Dict String}

theorem substituteString_congr {text : String} (h : AgreeOn values others text) :
    substituteString others text = substituteString values text := by
  simp only [substituteString, evaluate_congr h]

mutual

/-- A value comes to the same with any values that agree on its texts, and fails in the same way. -/
theorem substitute_congr {value : Json} (h : ∀ text ∈ value.texts, AgreeOn values others text) :
    substitute others value = substitute values value := by
  match value with
  | .string text =>
      have htext : AgreeOn values others text := h text (by simp [Json.texts])
      rw [substitute, substitute, substituteString_congr htext]
  | .array items => rw [substitute, substitute, substituteItems_congr h]
  | .object members => rw [substitute, substitute, substituteMembers_congr h]
  | .null | .bool b | .number n => rw [substitute, substitute]

theorem substituteItems_congr {items : List Json}
    (h : ∀ text ∈ Json.textsOfItems items, AgreeOn values others text) :
    substituteItems others items = substituteItems values items := by
  match items with
  | [] => rfl
  | item :: rest =>
      have hfirst : substitute others item = substitute values item :=
        substitute_congr fun text htext => h text (by simp [Json.textsOfItems, htext])
      have hrest : substituteItems others rest = substituteItems values rest :=
        substituteItems_congr fun text htext => h text (by simp [Json.textsOfItems, htext])
      rw [substituteItems, substituteItems, hfirst, hrest]

theorem substituteMembers_congr {members : List (String × Json)}
    (h : ∀ text ∈ Json.textsOfMembers members, AgreeOn values others text) :
    substituteMembers others members = substituteMembers values members := by
  match members with
  | [] => rfl
  | (key, value) :: rest =>
      have hkey : AgreeOn values others key := h key (by simp [Json.textsOfMembers])
      have hfirst : substitute others value = substitute values value :=
        substitute_congr fun text htext => h text (by simp [Json.textsOfMembers, htext])
      have hrest : substituteMembers others rest = substituteMembers values rest :=
        substituteMembers_congr fun text htext => h text (by simp [Json.textsOfMembers, htext])
      rw [substituteMembers, substituteMembers, hfirst, hrest, substituteText_congr hkey]

end

theorem substituteLabels_congr {labels : Dict String}
    (h : ∀ label ∈ labels, AgreeOn values others label.1 ∧ AgreeOn values others label.2) :
    substituteLabels others labels = substituteLabels values labels := by
  have hsame : ∀ label ∈ labels,
      (substituteText others label.1, substituteText others label.2) =
        (substituteText values label.1, substituteText values label.2) := by
    intro label hlabel
    obtain ⟨hkey, hvalue⟩ := h label hlabel
    rw [substituteText_congr hkey, substituteText_congr hvalue]
  rw [substituteLabels, substituteLabels, List.map_congr_left hsame]

end Agreement

/-! ## Results are canonical -/

theorem canonical_substituteString {values : Dict String} {text : String} {done : Json}
    (h : substituteString values text = .ok done) : done.Canonical := by
  unfold substituteString at h
  split at h
  next s _ =>
    obtain rfl := Except.ok.inj h
    exact trivial
  next written _ =>
    split at h
    next value hparse =>
      obtain rfl := Except.ok.inj h
      exact Json.canonical_of_parse hparse
    · exact absurd h (by simp)

mutual

/-- Whatever the value, the result of a substitution is canonical. -/
theorem canonical_substitute {values : Dict String} {value done : Json}
    (h : substitute values value = .ok done) : done.Canonical := by
  match value with
  | .string text => exact canonical_substituteString h
  | .array items =>
      rw [substitute] at h
      obtain ⟨found, hitems, rfl⟩ := exists_of_map_eq_ok h
      exact canonical_substituteItems hitems
  | .object members =>
      rw [substitute] at h
      obtain ⟨found, hmembers, rfl⟩ := exists_of_map_eq_ok h
      -- The keys may have come to anything; the members are put in order again.
      have hvalues := Json.canonicalMembers_iff.mp (canonical_substituteMembers hmembers)
      refine ⟨Dict.ordered_ofList found, Json.canonicalMembers_iff.mpr fun entry hentry => ?_⟩
      exact hvalues entry (Dict.mem_of_mem_ofList hentry)
  | .null | .bool b | .number n =>
      rw [substitute] at h
      obtain rfl := Except.ok.inj h
      exact trivial

theorem canonical_substituteItems {values : Dict String} {items done : List Json}
    (h : substituteItems values items = .ok done) : Json.CanonicalItems done := by
  match items with
  | [] =>
      obtain rfl := Except.ok.inj h
      exact trivial
  | item :: rest =>
      rw [substituteItems] at h
      split at h
      next => exact absurd h (by simp)
      next first hfirst =>
        obtain ⟨others, hrest, rfl⟩ := exists_of_map_eq_ok h
        exact ⟨canonical_substitute hfirst, canonical_substituteItems hrest⟩

theorem canonical_substituteMembers {values : Dict String} {members done : List (String × Json)}
    (h : substituteMembers values members = .ok done) : Json.CanonicalMembers done := by
  match members with
  | [] =>
      obtain rfl := Except.ok.inj h
      exact trivial
  | (key, value) :: rest =>
      rw [substituteMembers] at h
      split at h
      next => exact absurd h (by simp)
      next first hfirst =>
        obtain ⟨others, hrest, rfl⟩ := exists_of_map_eq_ok h
        exact ⟨canonical_substitute hfirst, canonical_substituteMembers hrest⟩

end

/-! ## Values without a declared reference -/

mutual

/-- A canonical value without a declared reference is substituted by itself. -/
theorem substitute_of_plain {values : Dict String} {value : Json} (hcanonical : value.Canonical)
    (hplain : ∀ text ∈ value.texts, Plain values text) : substitute values value = .ok value := by
  match value with
  | .string text =>
      have htext : Plain values text := hplain text (by simp [Json.texts])
      rw [substitute, substituteString, evaluate_of_plain htext]
  | .array items =>
      rw [substitute, substituteItems_of_plain hcanonical hplain]
      rfl
  | .object members =>
      rw [substitute, substituteMembers_of_plain hcanonical.2 hplain]
      -- The object is built anew from its members, which stand in order.
      exact congrArg (fun done => Except.ok (Json.object done)) hcanonical.1.ofList_eq
  | .null | .bool b | .number n => rw [substitute]

theorem substituteItems_of_plain {values : Dict String} {items : List Json}
    (hcanonical : Json.CanonicalItems items)
    (hplain : ∀ text ∈ Json.textsOfItems items, Plain values text) :
    substituteItems values items = .ok items := by
  match items with
  | [] => rfl
  | item :: rest =>
      have hfirst := substitute_of_plain hcanonical.1 fun text h =>
        hplain text (by simp [Json.textsOfItems, h])
      have hrest := substituteItems_of_plain hcanonical.2 fun text h =>
        hplain text (by simp [Json.textsOfItems, h])
      rw [substituteItems, hfirst, hrest]
      rfl

theorem substituteMembers_of_plain {values : Dict String} {members : List (String × Json)}
    (hcanonical : Json.CanonicalMembers members)
    (hplain : ∀ text ∈ Json.textsOfMembers members, Plain values text) :
    substituteMembers values members = .ok members := by
  match members with
  | [] => rfl
  | (key, value) :: rest =>
      have hkey : Plain values key := hplain key (by simp [Json.textsOfMembers])
      have hfirst := substitute_of_plain hcanonical.1 fun text h =>
        hplain text (by simp [Json.textsOfMembers, h])
      have hrest := substituteMembers_of_plain hcanonical.2 fun text h =>
        hplain text (by simp [Json.textsOfMembers, h])
      rw [substituteMembers, hfirst, hrest, substituteText_of_plain hkey]
      rfl

end

/-- Labels without a declared reference are substituted by themselves. -/
theorem substituteLabels_of_plain {values labels : Dict String} (hordered : labels.Ordered)
    (hplain : ∀ label ∈ labels, Plain values label.1 ∧ Plain values label.2) :
    substituteLabels values labels = labels := by
  have hsame : ∀ label ∈ labels,
      (substituteText values label.1, substituteText values label.2) = label := by
    intro label hlabel
    obtain ⟨hkey, hvalue⟩ := hplain label hlabel
    rw [substituteText_of_plain hkey, substituteText_of_plain hvalue]
  rw [substituteLabels, List.map_congr_left hsame, List.map_id']
  exact hordered.ofList_eq

end Expansion

end ResourceTemplate

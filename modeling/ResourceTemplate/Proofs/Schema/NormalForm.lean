import ResourceTemplate.Proofs.Document.Value
import ResourceTemplate.Schema.Read

/-!
# Normal forms

A value that has a type is read into its normal form, which `normal` gives without asking whether
the value has the type.  Of a record it keeps the fields that the type names, as far as they are not
null, and adds the texts that are always there; a timestamp is written anew.  Everything else is
kept as it is, at any depth.

`Settled` says which values are in normal form already.
-/

namespace ResourceTemplate

/-- Whether a value is null. -/
def Json.isNull : Json → Bool
  | .null => true
  | _ => false

@[simp] theorem Document.Node.isAbsent_ofJson (v : Json) :
    (Document.Node.ofJson v).isAbsent = .ok v.isNull := by
  match v with
  | .null | .bool _ | .number (.natural _) | .number (.negative _) | .number (.double _)
  | .string _ | .array _ | .object _ => rfl

namespace Schema

open Document Json

/-- The type of a member that a record keeps; a member with a constant text is a text. -/
def RecordType.kept? (r : RecordType) (name : String) : Option FieldType :=
  if (r.constant? name).isSome then some .text else r.field? name

/-- A timestamp written anew. -/
def normalTime (s : String) : String :=
  match Timestamp.read s with
  | .ok moment => moment.text
  | .error _ => s

mutual

/-- The normal form of a value at a type. -/
def normal (t : FieldType) : Json → Json
  | .string s =>
      match t with
      | .time => .string (normalTime s)
      | _ => .string s
  | .array items =>
      match t with
      | .list item => .array (normalItems item items)
      | _ => .array items
  | .object members =>
      match t with
      | .dict item => .object (normalEntries item members)
      | .record name => finishRecord (recordType name) (normalFields (recordType name) members)
      | _ => .object members
  | value => value

/-- The normal forms of items. -/
def normalItems (item : FieldType) : List Json → List Json
  | [] => []
  | value :: rest => normal item value :: normalItems item rest

/-- The entries of a map with their values in normal form. -/
def normalEntries (item : FieldType) : List (String × Json) → List (String × Json)
  | [] => []
  | (key, value) :: rest => (key, normal item value) :: normalEntries item rest

/-- The members of a record that it keeps, in normal form. -/
def normalFields (r : RecordType) : List (String × Json) → List (String × Json)
  | [] => []
  | (key, value) :: rest =>
      match r.kept? key with
      | none => normalFields r rest
      | some t =>
          if value.isNull then normalFields r rest
          else (key, normal t value) :: normalFields r rest

end

mutual

/-- The value is in normal form: records have no fields that are unknown or null and all the texts
that they always have, and timestamps are written as universal time. -/
def Settled (t : FieldType) : Json → Prop
  | .string s =>
      match t with
      | .time => normalTime s = s
      | _ => True
  | .array items =>
      match t with
      | .list item => SettledItems item items
      | _ => True
  | .object members =>
      match t with
      | .dict item => SettledEntries item members
      | .record name =>
          SettledFields (recordType name) members ∧
            ∀ field ∈ (recordType name).always, Dict.has members field = true
      | _ => True
  | _ => True

/-- Every item is in normal form. -/
def SettledItems (item : FieldType) : List Json → Prop
  | [] => True
  | value :: rest => Settled item value ∧ SettledItems item rest

/-- Every entry has its value in normal form. -/
def SettledEntries (item : FieldType) : List (String × Json) → Prop
  | [] => True
  | (_, value) :: rest => Settled item value ∧ SettledEntries item rest

/-- Every member is a known field in normal form that is not null. -/
def SettledFields (r : RecordType) : List (String × Json) → Prop
  | [] => True
  | (key, value) :: rest =>
      (∃ t, r.kept? key = some t ∧ value.isNull = false ∧ Settled t value) ∧ SettledFields r rest

end

/-! ## Reading gives the normal form -/

theorem readInteger_ofJson {bits : Nat} {wanted range : String} {v w : Json}
    (h : readInteger bits wanted range (Node.ofJson v) = .ok w) : w = v := by
  match v with
  | .number (.natural n) | .number (.negative n) =>
      simp only [Node.ofJson, readInteger, scalarOf] at h
      split at h
      · exact (Except.ok.inj h).symm
      · exact absurd h (by simp)
  | .null | .bool _ | .number (.double _) | .string _ | .array _ | .object _ => cases h

theorem read_null {t : FieldType} {w : Json} (h : read t (Node.ofJson .null) = .ok w) :
    w = .null := by
  cases t with
  | bytes | anything => exact (Except.ok.inj h).symm
  | text | flag | int32 | int64 | quantity | intOrText | time | list _ | dict _ | record _ => cases h

theorem read_bool {t : FieldType} {b : Bool} {w : Json}
    (h : read t (Node.ofJson (.bool b)) = .ok w) : w = .bool b := by
  cases t with
  | flag | anything => exact (Except.ok.inj h).symm
  | text | int32 | int64 | quantity | intOrText | bytes | time | list _ | dict _ | record _ => cases h

theorem read_number {t : FieldType} {n : Number} {w : Json}
    (h : read t (Node.ofJson (.number n)) = .ok w) : w = .number n := by
  have hscalar : readScalar t (Node.ofJson (.number n)) false = .ok w := by
    cases n <;> exact h
  cases t with
  | int32 | int64 => exact readInteger_ofJson hscalar
  | intOrText =>
      have hinteger : readInteger 32 FieldType.intOrText.wanted "a 32-bit integer"
          (Node.ofJson (.number n)) = .ok w := by
        cases n <;> exact hscalar
      exact readInteger_ofJson hinteger
  | anything =>
      have hvalue : (Node.ofJson (.number n)).value = .ok (.number n) := Node.value_ofJson trivial
      exact (Except.ok.inj (hvalue.symm.trans hscalar)).symm
  | text | flag | quantity | bytes | time | list _ | dict _ | record _ => cases n <;> cases hscalar

theorem read_string {t : FieldType} {s : String} {w : Json}
    (h : read t (Node.ofJson (.string s)) = .ok w) : w = normal t (.string s) := by
  have hscalar : readScalar t (Node.ofJson (.string s)) false = .ok w := h
  cases t with
  | text | quantity | intOrText | anything => exact (Except.ok.inj hscalar).symm
  | bytes =>
      simp only [readScalar, readBytes, Node.isAbsent_ofJson, isNull] at hscalar
      simp only [Node.ofJson, Node.text_string] at hscalar
      split at hscalar
      · exact (Except.ok.inj hscalar).symm
      · cases hscalar
  | time =>
      simp only [readScalar, readTime, Node.ofJson, Node.text_string] at hscalar
      split at hscalar
      next moment hread =>
        obtain rfl := Except.ok.inj hscalar
        simp only [normal, normalTime, hread]
      · cases hscalar
  | flag | int32 | int64 | list _ | dict _ | record _ => cases hscalar

theorem readConstant_ofJson {constant : String} {step : Step} {v w : Json}
    (h : readConstant constant step (Node.ofJson v) = .ok w) :
    ∃ s, v = .string s ∧ w = .string s := by
  match v with
  | .string s =>
      simp only [readConstant, Node.ofJson, Node.text_string] at h
      split at h
      · exact ⟨s, rfl, (Except.ok.inj h).symm⟩
      · cases h
  | .null | .bool _ | .number (.natural _) | .number (.negative _) | .number (.double _)
  | .array _ | .object _ => cases h

mutual

/-- What a canonical value is read into is its normal form. -/
theorem read_ofJson {t : FieldType} {v w : Json} (hv : v.Canonical)
    (h : read t (Node.ofJson v) = .ok w) : w = normal t v := by
  -- Scalars do not depend on parts; items, entries and fields are the other theorems of the block.
  match v with
  | .null => exact read_null h
  | .bool b => exact read_bool h
  | .number n => exact read_number h
  | .string s => exact read_string h
  | .array items =>
      simp only [Node.ofJson, read] at h
      split at h
      next item =>
        obtain ⟨found, hitems, rfl⟩ := exists_of_map_eq_ok h
        rw [readItems_ofItems hv hitems, normal]
      · cases h
      next =>
        rw [show Node.sequence () true (Node.ofItems items) = Node.ofJson (.array items) from rfl,
          Node.value_ofJson hv] at h
        exact (Except.ok.inj h).symm
      · cases h
  | .object members =>
      have hordered : Dict.Ordered ([] ++ members) := hv.1
      simp only [Node.ofJson, read] at h
      split at h
      next item =>
        obtain ⟨found, hentries, rfl⟩ := exists_of_map_eq_ok h
        rw [readEntries_ofMembers hv.2 hordered hentries, normal]
        rfl
      next name => exact readFields_ofMembers hv.2 hordered h
      next =>
        rw [show Node.mapping () true (Node.ofMembers members) = Node.ofJson (.object members) from rfl,
          Node.value_ofJson hv] at h
        exact (Except.ok.inj h).symm
      · cases h
termination_by structural v

theorem readItems_ofItems {item : FieldType} {index : Nat} {items found : List Json}
    (hitems : CanonicalItems items) (h : readItems item index (Node.ofItems items) = .ok found) :
    found = normalItems item items := by
  match items with
  | [] => exact (Except.ok.inj h).symm
  | value :: rest =>
      simp only [Node.ofItems, readItems] at h
      split at h
      next => cases h
      next first hfirst =>
        obtain ⟨others, hrest, rfl⟩ := exists_of_map_eq_ok h
        rw [read_ofJson hitems.1 hfirst, readItems_ofItems hitems.2 hrest, normalItems]
termination_by structural items

theorem readEntries_ofMembers {item : FieldType} {before : Dict Json}
    {members : List (String × Json)} {found : Dict Json} (hmembers : CanonicalMembers members)
    (hordered : Dict.Ordered (before ++ members))
    (h : readEntries item before (Node.ofMembers members) = .ok found) :
    found = before ++ normalEntries item members := by
  match members with
  | [] =>
      rw [normalEntries, List.append_nil]
      exact (Except.ok.inj h).symm
  | (key, value) :: rest =>
      simp only [Node.ofMembers, readEntries, Node.text_string] at h
      split at h
      next => cases h
      next first hfirst =>
        obtain rfl := read_ofJson hmembers.1 hfirst
        rw [Dict.insert_of_ordered_append hordered] at h
        rw [readEntries_ofMembers hmembers.2 (Dict.ordered_append_replace hordered _) h,
          normalEntries, List.append_assoc]
        rfl
termination_by structural members

theorem readFields_ofMembers {r : RecordType} {before : Dict Json}
    {members : List (String × Json)} {w : Json} (hmembers : CanonicalMembers members)
    (hordered : Dict.Ordered (before ++ members))
    (h : readFields r before (Node.ofMembers members) = .ok w) :
    w = finishRecord r (before ++ normalFields r members) := by
  match members with
  | [] =>
      rw [normalFields, List.append_nil]
      exact (Except.ok.inj h).symm
  | (key, value) :: rest =>
      have hdropped := Dict.ordered_append_drop hordered
      have hreplaced := Dict.ordered_append_replace hordered
      simp only [Node.ofMembers, readFields, Node.text_string, Node.isAbsent_ofJson] at h
      split at h
      next constant hconstant =>
        split at h
        next => cases h
        next found hfound =>
          obtain ⟨s, rfl, rfl⟩ := readConstant_ofJson hfound
          rw [Dict.insert_of_ordered_append hordered] at h
          rw [readFields_ofMembers hmembers.2 (hreplaced _) h, normalFields]
          simp [RecordType.kept?, hconstant, isNull, normal]
      next hconstant =>
        split at h
        next hfield =>
          rw [readFields_ofMembers hmembers.2 hdropped h, normalFields]
          simp [RecordType.kept?, hconstant, hfield]
        next t hfield =>
          cases hnull : value.isNull with
          | true =>
              simp only [hnull, Dict.erase_of_ordered_append hordered] at h
              rw [readFields_ofMembers hmembers.2 hdropped h, normalFields]
              simp [RecordType.kept?, hconstant, hfield, hnull]
          | false =>
              simp only [hnull] at h
              split at h
              next => cases h
              next found hfound =>
                obtain rfl := read_ofJson hmembers.1 hfound
                rw [Dict.insert_of_ordered_append hordered] at h
                rw [readFields_ofMembers hmembers.2 (hreplaced _) h, normalFields]
                simp [RecordType.kept?, hconstant, hfield, hnull]
termination_by structural members

end

/-! ## Members of records in normal form -/

/-- What a record keeps of a member. -/
def RecordType.keptField (r : RecordType) (key : String) (value : Json) : Option Json :=
  match r.kept? key with
  | none => none
  | some t => if value.isNull then none else some (normal t value)

theorem RecordType.keptField_eq_some_iff {r : RecordType} {key : String} {value kept : Json} :
    r.keptField key value = some kept ↔
      ∃ t, r.kept? key = some t ∧ value.isNull = false ∧ normal t value = kept := by
  unfold RecordType.keptField
  cases r.kept? key with
  | none => simp
  | some t => cases value.isNull <;> simp

theorem normalFields_cons (r : RecordType) (key : String) (value : Json)
    (rest : List (String × Json)) :
    normalFields r ((key, value) :: rest) =
      match r.keptField key value with
      | none => normalFields r rest
      | some kept => (key, kept) :: normalFields r rest := by
  rw [normalFields, RecordType.keptField]
  cases r.kept? key with
  | none => rfl
  | some t => cases value.isNull <;> rfl

theorem find?_normalFields (r : RecordType) {members : Dict Json} (h : Dict.Ordered members)
    (key : String) :
    Dict.find? (normalFields r members) key = (Dict.find? members key).bind (r.keptField key) := by
  induction members with
  | nil => rfl
  | cons entry rest ih =>
      obtain ⟨k, value⟩ := entry
      obtain ⟨hfirst, hrest⟩ := List.pairwise_cons.mp h
      rw [normalFields_cons]
      by_cases hk : k = key
      · subst hk
        -- What is not kept here does not come again.
        have hnone : Dict.find? rest k = none :=
          Dict.find?_eq_none_of_forall_ne fun entry hentry => ne_of_gt (hfirst entry hentry)
        cases hkept : r.keptField k value with
        | none => simp [Dict.find?, hkept, ih hrest, hnone]
        | some kept => simp [Dict.find?, hkept]
      · cases hkept : r.keptField k value with
        | none => simp [Dict.find?, hk, ih hrest]
        | some kept => simp [Dict.find?, hk, ih hrest]

/-- Fields with an empty text under each name that has none. -/
def completed (names : List String) (fields : Dict Json) : Dict Json :=
  names.foldl (fun fields name => if fields.has name then fields else fields.insert name (.string ""))
    fields

theorem finishRecord_eq (r : RecordType) (fields : Dict Json) :
    finishRecord r fields = .object (completed r.always fields) := rfl

theorem find?_completed (names : List String) (fields : Dict Json) (key : String) :
    (completed names fields).find? key =
      (fields.find? key).or (if key ∈ names then some (.string "") else none) := by
  induction names generalizing fields with
  | nil => simp [completed]
  | cons name rest ih =>
      rw [completed, List.foldl_cons]
      refine (ih _).trans ?_
      by_cases hname : name = key
      · subst hname
        cases hfind : fields.find? name with
        | none => simp [Dict.has, hfind, Dict.find?_insert_self]
        | some value => simp [Dict.has, hfind]
      · have hother : (if fields.has name then fields else fields.insert name (.string "")).find? key =
            fields.find? key := by
          split
          · rfl
          · exact Dict.find?_insert_of_ne _ _ hname
        simp [hother, Ne.symm hname]

theorem completed_of_has {names : List String} {fields : Dict Json}
    (h : ∀ name ∈ names, fields.has name = true) : completed names fields = fields := by
  induction names with
  | nil => rfl
  | cons name rest ih =>
      rw [completed, List.foldl_cons, if_pos (h name List.mem_cons_self)]
      exact ih fun other hother => h other (List.mem_cons_of_mem _ hother)

/-- A text of a record is the same in the normal form, unless the record always has it. -/
theorem getString?_normal {name field : String} {v : Json} (hv : v.Canonical)
    (hkept : (recordType name).kept? field = some .text)
    (halways : field ∉ (recordType name).always) :
    (normal (.record name) v).getString? field = v.getString? field := by
  match v with
  | .null | .bool _ | .number _ | .string _ | .array _ => rfl
  | .object members =>
      simp only [normal, finishRecord_eq, getString?, get?]
      rw [find?_completed, if_neg halways, Option.or_none, find?_normalFields _ hv.1]
      cases Dict.find? members field with
      | none => rfl
      | some value =>
          rw [Option.bind_some, RecordType.keptField, hkept]
          cases value <;> rfl

/-- The texts that a record always has are among its fields. -/
theorem kept?_of_mem_always {name field : String} (h : field ∈ (recordType name).always) :
    ((recordType name).kept? field).isSome = true := by
  have htable : ∀ r ∈ recordTypes, ∀ field ∈ r.always, (r.kept? field).isSome = true := by
    decide +kernel
  unfold recordType at h ⊢
  cases hfind : recordTypes.find? fun r => r.name = name with
  | none =>
      rw [hfind] at h
      exact absurd h List.not_mem_nil
  | some r =>
      rw [hfind] at h
      exact htable r (List.mem_of_find?_eq_some hfind) field h

/-! ## Which values are in normal form -/

/-- What a record keeps of the member is the member. -/
def FixedField (r : RecordType) (entry : String × Json) : Prop :=
  r.keptField entry.1 entry.2 = some entry.2

theorem normalFields_of_fixed {r : RecordType} {members : List (String × Json)}
    (h : ∀ entry ∈ members, FixedField r entry) : normalFields r members = members := by
  induction members with
  | nil => rfl
  | cons entry rest ih =>
      obtain ⟨key, value⟩ := entry
      have hfirst : r.keptField key value = some value := h (key, value) List.mem_cons_self
      rw [normalFields_cons, hfirst, ih fun other hother => h other (List.mem_cons_of_mem _ hother)]

theorem finishRecord_eq_self_iff {name : String} {members : Dict Json}
    (hordered : Dict.Ordered members) :
    finishRecord (recordType name) (normalFields (recordType name) members) = .object members ↔
      (∀ entry ∈ members, FixedField (recordType name) entry) ∧
        ∀ field ∈ (recordType name).always, Dict.has members field = true := by
  rw [finishRecord_eq, Json.object.injEq]
  constructor
  · intro h
    have hfind : ∀ key, Dict.find? members key =
        ((Dict.find? members key).bind ((recordType name).keptField key)).or
          (if key ∈ (recordType name).always then some (.string "") else none) := by
      intro key
      conv_lhs => rw [← h]
      rw [find?_completed, find?_normalFields _ hordered]
    refine ⟨fun entry hentry => ?_, fun field hfield => ?_⟩
    · obtain ⟨key, value⟩ := entry
      have hvalue := hordered.find?_of_mem hentry
      have hkey := hfind key
      rw [hvalue, Option.bind_some] at hkey
      cases hkept : (recordType name).keptField key value with
      | some kept =>
          rw [hkept] at hkey
          exact hkept.trans hkey.symm
      | none =>
          -- The member would be a text that was added, but those are known and would have been
          -- kept.
          rw [hkept, Option.none_or] at hkey
          split at hkey
          next halways =>
            obtain rfl := Option.some.inj hkey
            obtain ⟨t, ht⟩ := Option.isSome_iff_exists.mp (kept?_of_mem_always halways)
            simp [RecordType.keptField, ht, isNull] at hkept
          next => exact absurd hkey (by simp)
    · unfold Dict.has
      rw [hfind field, if_pos hfield]
      simp
  · rintro ⟨hfixed, halways⟩
    rw [normalFields_of_fixed hfixed, completed_of_has halways]

mutual

/-- A canonical value is its own normal form exactly when it is settled. -/
theorem normal_eq_self_iff {t : FieldType} {v : Json} (hv : v.Canonical) :
    normal t v = v ↔ Settled t v := by
  match v with
  | .null | .bool _ | .number _ => exact ⟨fun _ => trivial, fun _ => rfl⟩
  | .string s =>
      simp only [normal, Settled]
      split
      · rw [Json.string.injEq]
      · exact ⟨fun _ => trivial, fun _ => rfl⟩
  | .array items =>
      simp only [normal, Settled]
      split
      · rw [Json.array.injEq, normalItems_eq_self_iff hv]
      · exact ⟨fun _ => trivial, fun _ => rfl⟩
  | .object members =>
      simp only [normal, Settled]
      split
      · rw [Json.object.injEq, normalEntries_eq_self_iff hv.2]
      · rw [finishRecord_eq_self_iff hv.1, settledFields_iff hv.2]
      · exact ⟨fun _ => trivial, fun _ => rfl⟩
termination_by structural v

theorem normalItems_eq_self_iff {item : FieldType} {items : List Json} (h : CanonicalItems items) :
    normalItems item items = items ↔ SettledItems item items := by
  match items with
  | [] => exact ⟨fun _ => trivial, fun _ => rfl⟩
  | value :: rest =>
      rw [normalItems, SettledItems, List.cons.injEq, normal_eq_self_iff h.1,
        normalItems_eq_self_iff h.2]
termination_by structural items

theorem normalEntries_eq_self_iff {item : FieldType} {members : List (String × Json)}
    (h : CanonicalMembers members) :
    normalEntries item members = members ↔ SettledEntries item members := by
  match members with
  | [] => exact ⟨fun _ => trivial, fun _ => rfl⟩
  | (key, value) :: rest =>
      rw [normalEntries, SettledEntries, List.cons.injEq, Prod.mk.injEq, eq_self, true_and,
        normal_eq_self_iff h.1, normalEntries_eq_self_iff h.2]
termination_by structural members

theorem settledFields_iff {r : RecordType} {members : List (String × Json)}
    (h : CanonicalMembers members) :
    SettledFields r members ↔ ∀ entry ∈ members, FixedField r entry := by
  match members with
  | [] => exact ⟨fun _ => List.forall_mem_nil _, fun _ => trivial⟩
  | (key, value) :: rest =>
      rw [SettledFields, List.forall_mem_cons, settledFields_iff h.2, FixedField,
        RecordType.keptField_eq_some_iff]
      simp only [normal_eq_self_iff h.1]
termination_by structural members

end

end Schema

end ResourceTemplate

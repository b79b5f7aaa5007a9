import ResourceTemplate.Document.Record
import ResourceTemplate.Proofs.Document.Value

/-!
# Records that are written as objects

A record is read from the document of an object by setting its fields one after the other, in the
order in which the members stand.  When every member is a field that can be set, and no key stands
twice, nothing is lost and nothing is left over.
-/

namespace ResourceTemplate.Document.RecordReader

variable {α : Type}

/-- What setting the field of one member leaves; a draft is kept when the field cannot be set. -/
def put (reader : RecordReader Unit α) (draft : α) (member : String × Json) : α :=
  match reader.set draft member.1 (Node.ofJson member.2) with
  | .ok next => next
  | .error _ => draft

/-- Setting the field of a member does not fail, whatever the draft. -/
def Takes (reader : RecordReader Unit α) (member : String × Json) : Prop :=
  member.1 ∈ reader.fields ∧
    ∀ draft, reader.set draft member.1 (Node.ofJson member.2) = .ok (reader.put draft member)

theorem put_of_set {reader : RecordReader Unit α} {name : String} {value : Json} {draft next : α}
    (h : reader.set draft name (Node.ofJson value) = .ok next) :
    reader.put draft (name, value) = next := by
  simp only [put, h]

/-- A member is taken when it is known what setting its field makes of a draft. -/
theorem takes_of_set {reader : RecordReader Unit α} {name : String} {value : Json} {f : α → α}
    (hfield : name ∈ reader.fields)
    (hset : ∀ draft, reader.set draft name (Node.ofJson value) = .ok (f draft)) :
    reader.Takes (name, value) := by
  refine ⟨hfield, fun draft => ?_⟩
  rw [put_of_set (hset draft)]
  exact hset draft

/-- The members of an object set their fields in order. -/
theorem readEntries_ofMembers (reader : RecordReader Unit α) (whole : Node Unit) (seen : List String)
    (draft : α) {found : List (String × Json)} (hnodup : (found.map Prod.fst).Nodup)
    (hunseen : ∀ member ∈ found, member.1 ∉ seen) (htakes : ∀ member ∈ found, reader.Takes member) :
    reader.readEntries whole seen draft (Node.ofMembers found) =
      .ok (found.foldl reader.put draft, (found.map Prod.fst).reverse ++ seen) := by
  induction found generalizing seen draft with
  | nil => rfl
  | cons member rest ih =>
      obtain ⟨name, value⟩ := member
      obtain ⟨hfield, hset⟩ := htakes (name, value) List.mem_cons_self
      have hnew : name ∉ seen := hunseen (name, value) List.mem_cons_self
      obtain ⟨hfirst, hrest⟩ := List.nodup_cons.mp hnodup
      -- Behind this member its key counts as seen, and none of the later keys is the same.
      have hunseen' : ∀ member ∈ rest, member.1 ∉ name :: seen := by
        intro member hmember hin
        rcases List.mem_cons.mp hin with heq | hin
        · exact hfirst (List.mem_map.mpr ⟨member, hmember, heq⟩)
        · exact hunseen member (List.mem_cons_of_mem _ hmember) hin
      have htakes' : ∀ member ∈ rest, reader.Takes member :=
        fun member hmember => htakes member (List.mem_cons_of_mem _ hmember)
      have hknown : reader.fields.contains name = true := List.contains_iff_mem.mpr hfield
      have hunknown : seen.contains name = false := by
        simpa using hnew
      simp only [Node.ofMembers, readEntries, Node.text_string, hknown, hunknown, hset,
        Bool.not_true, Bool.false_eq_true, if_false]
      rw [ih (name :: seen) (reader.put draft (name, value)) hrest hunseen' htakes']
      simp

end ResourceTemplate.Document.RecordReader

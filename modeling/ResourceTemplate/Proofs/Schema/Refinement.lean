import ResourceTemplate.Proofs.Document.Refinement
import ResourceTemplate.Schema.Read

/-!
# Values of a type in documents that are read alike

What is read at a type from a document is also read from every document that it refines to: the
readers of a scalar look only at what refinement keeps, and the readers of collections go on from
part to part.
-/

namespace ResourceTemplate

namespace Schema

open Document Node

variable {Place Place' : Type} {node : Node Place} {other : Node Place'}

theorem readText_of_refines (h : node.Refines other) {wanted : String} {v : Json}
    (hread : readText wanted node = .ok v) : readText wanted other = .ok v := by
  obtain ⟨x, htext, rfl⟩ := exists_of_map_eq_ok hread
  rw [readText, text_of_refines h htext]
  rfl

theorem readInteger_of_refines (h : node.Refines other) {bits : Nat} (hbits : bits ≤ 64)
    {wanted range : String} {v : Json} (hread : readInteger bits wanted range node = .ok v) :
    readInteger bits wanted range other = .ok v := by
  cases node with
  | scalar place s =>
      obtain ⟨place', s', rfl, hs⟩ := exists_of_refines_scalar h
      simp only [readInteger] at hread ⊢
      cases hinteger : s.integer? with
      | none => simp [hinteger] at hread
      | some i =>
          simp only [hinteger] at hread
          split at hread
          next hrange =>
            have hbound : 2 ^ (bits - 1) ≤ 2 ^ 63 := Nat.pow_le_pow_right (by decide) (by omega)
            have hpower : Int.pow 2 (bits - 1) ≤ Int.pow 2 63 :=
              (by exact_mod_cast hbound : (2 : Int) ^ (bits - 1) ≤ (2 : Int) ^ 63)
            have hother := hs.integer i (by omega) (by omega) hinteger
            simpa only [hother, if_pos hrange, Except.ok.injEq] using hread
          next => simp at hread
  | sequence place loose items => simp [readInteger] at hread
  | mapping place loose entries => simp [readInteger] at hread
  | unreadable place => simp [readInteger] at hread

theorem readTime_of_refines (h : node.Refines other) {v : Json} (hread : readTime node = .ok v) :
    readTime other = .ok v := by
  unfold readTime at hread ⊢
  cases htext : node.text FieldType.time.wanted with
  | error e => simp [htext] at hread
  | ok x =>
      rw [text_of_refines h htext]
      simp only [htext] at hread ⊢
      cases hmoment : Timestamp.read x with
      | error fault => simp [hmoment] at hread
      | ok moment => simpa only [hmoment, Except.ok.injEq] using hread

theorem readBytes_of_refines (h : node.Refines other) {v : Json} (hread : readBytes node = .ok v) :
    readBytes other = .ok v := by
  unfold readBytes at hread ⊢
  cases habsent : node.isAbsent with
  | error e => simp [habsent] at hread
  | ok absent =>
      rw [isAbsent_of_refines h habsent]
      rw [habsent] at hread
      cases absent with
      | true => simpa only [Except.ok.injEq] using hread
      | false =>
          cases htext : node.text FieldType.bytes.wanted with
          | error e => simp [htext] at hread
          | ok x =>
              rw [text_of_refines h htext]
              simp only [htext] at hread ⊢
              cases hfault : Base64.fault? (x.toUTF8.toList.map UInt8.toNat) with
              | some fault => simp only [hfault, reduceCtorEq] at hread
              | none => simpa only [hfault, Except.ok.injEq] using hread

/-- A scalar that is called a text is read as one; any other as an integer. -/
theorem readIntOrText_eq (node : Node Place) :
    (∃ place s x, node = scalar place s ∧ s.found = .text x ∧ readIntOrText node = .ok (.string x)) ∨
      (∀ place s x, node = scalar place s → s.found ≠ .text x) ∧
        readIntOrText node =
          readInteger 32 FieldType.intOrText.wanted "a 32-bit integer" node := by
  unfold readIntOrText
  split
  next place x text? label? flag? integer? free absence hollow =>
    exact .inl ⟨place, _, x, rfl, rfl, rfl⟩
  next hnot =>
    refine .inr ⟨?_, rfl⟩
    rintro place ⟨found, text?, label?, flag?, integer?, free, absence, hollow⟩ x rfl hfound
    exact hnot place x text? label? flag? integer? free absence hollow (by rw [← hfound])

theorem readIntOrText_of_refines (h : node.Refines other) {v : Json}
    (hread : readIntOrText node = .ok v) : readIntOrText other = .ok v := by
  rcases readIntOrText_eq node with ⟨place, s, x, rfl, hfound, heq⟩ | ⟨hnot, heq⟩
  · obtain ⟨place', s', rfl, hs⟩ := exists_of_refines_scalar h
    rw [heq] at hread
    rcases readIntOrText_eq (scalar place' s') with ⟨_, _, x', heq', hfound', hother⟩ | ⟨hnot', _⟩
    · obtain ⟨rfl, rfl⟩ := Node.scalar.inj heq'
      obtain rfl : x = x' := by
        have hsame := (hs.found x).mp hfound
        rw [hfound'] at hsame
        exact (Found.text.inj hsame).symm
      simpa only [hother, Except.ok.injEq] using hread
    · exact absurd ((hs.found x).mp hfound) (hnot' place' s' x rfl)
  · rw [heq] at hread
    rcases readIntOrText_eq other with ⟨place', s', x, rfl, hfound, _⟩ | ⟨_, hother⟩
    · cases node with
      | scalar place s => exact absurd ((h.found x).mpr hfound) (hnot place s x rfl)
      | sequence place loose items => simp [Refines] at h
      | mapping place loose entries => simp [Refines] at h
      | unreadable place => simp [Refines] at h
    · rw [hother]
      exact readInteger_of_refines h (by decide) hread

theorem readScalar_of_refines (h : node.Refines other) {t : FieldType} {hollow hollow' : Bool}
    (hhollow : hollow = true → hollow' = true) {v : Json}
    (hread : readScalar t node hollow = .ok v) : readScalar t other hollow' = .ok v := by
  cases t with
  | text => exact readText_of_refines h hread
  | quantity => exact readText_of_refines h hread
  | flag =>
      obtain ⟨b, hflag, rfl⟩ := exists_of_map_eq_ok hread
      simp only [readScalar, flag_of_refines h hflag, Except.map]
  | int32 => exact readInteger_of_refines h (by decide) hread
  | int64 => exact readInteger_of_refines h (by decide) hread
  | intOrText => exact readIntOrText_of_refines h hread
  | bytes => exact readBytes_of_refines h hread
  | time => exact readTime_of_refines h hread
  | anything => exact value_of_refines h hread
  | list item | dict item | record name =>
      cases hollow with
      | false => simp [readScalar] at hread
      | true =>
          simp only [readScalar, hhollow rfl, if_true] at hread ⊢
          simpa only [Except.ok.injEq] using hread

theorem readConstant_of_refines (h : node.Refines other) {constant : String} {step step' : Step}
    {v : Json} (hread : readConstant constant step node = .ok v) :
    readConstant constant step' other = .ok v := by
  unfold readConstant at hread ⊢
  cases htext : node.text FieldType.text.wanted with
  | error e => simp [htext] at hread
  | ok x =>
      rw [text_of_refines h htext]
      simp only [htext] at hread ⊢
      split at hread
      next hconstant => simpa only [if_pos hconstant, Except.ok.injEq] using hread
      next => simp at hread

mutual

theorem read_of_refines {node : Node Place} {other : Node Place'} (h : node.Refines other)
    {t : FieldType} {v : Json} (hread : read t node = .ok v) : read t other = .ok v := by
  match node with
  | .scalar place s =>
      obtain ⟨place', s', rfl, hs⟩ := exists_of_refines_scalar h
      exact readScalar_of_refines h hs.hollow hread
  | .sequence place loose items =>
      obtain ⟨place', items', rfl, hitems⟩ := exists_of_refines_sequence h
      cases t with
      | list item =>
          simp only [read] at hread ⊢
          obtain ⟨found, hvalues, rfl⟩ := exists_of_map_eq_ok hread
          rw [readItems_of_refines hitems hvalues]
          rfl
      | anything => exact value_of_refines h hread
      | _ => simp [read] at hread
  | .mapping place loose entries =>
      obtain ⟨place', entries', rfl, hentries⟩ := exists_of_refines_mapping h
      cases t with
      | dict item =>
          simp only [read] at hread ⊢
          obtain ⟨found, hvalues, rfl⟩ := exists_of_map_eq_ok hread
          rw [readEntries_of_refines hentries hvalues]
          rfl
      | record name =>
          simp only [read] at hread ⊢
          exact readFields_of_refines hentries hread
      | anything => exact value_of_refines h hread
      | _ => simp [read] at hread
  | .unreadable place => simp [read] at hread

theorem readItems_of_refines {items : List (Node Place)} {others : List (Node Place')}
    (h : RefinesItems items others) {item : FieldType} {index : Nat} {found : List Json}
    (hread : readItems item index items = .ok found) : readItems item index others = .ok found := by
  match items, others with
  | [], [] => simpa only [readItems, Except.ok.injEq] using hread
  | [], _ :: _ => exact absurd h (by simp [RefinesItems])
  | _ :: _, [] => exact absurd h (by simp [RefinesItems])
  | node :: rest, other :: others =>
      obtain ⟨hnode, hrest⟩ := h
      simp only [readItems] at hread ⊢
      cases hvalue : read item node with
      | error e => simp [hvalue] at hread
      | ok v =>
          simp only [hvalue] at hread
          obtain ⟨vs, hvalues, rfl⟩ := exists_of_map_eq_ok hread
          simp only [read_of_refines hnode hvalue, readItems_of_refines hrest hvalues, Except.map]

theorem readEntries_of_refines {entries : List (Node Place × Node Place)}
    {others : List (Node Place' × Node Place')} (h : RefinesEntries entries others)
    {item : FieldType} {before found : Dict Json}
    (hread : readEntries item before entries = .ok found) :
    readEntries item before others = .ok found := by
  match entries, others with
  | [], [] => simpa only [readEntries, Except.ok.injEq] using hread
  | [], _ :: _ => exact absurd h (by simp [RefinesEntries])
  | _ :: _, [] => exact absurd h (by simp [RefinesEntries])
  | (key, node) :: rest, (key', other) :: others =>
      obtain ⟨hkey, hnode, hrest⟩ := h
      simp only [readEntries] at hread ⊢
      cases htext : key.text FieldType.text.wanted with
      | error e => simp [htext] at hread
      | ok name =>
          cases hvalue : read item node with
          | error e => simp [htext, hvalue] at hread
          | ok v =>
              simp only [htext, hvalue] at hread
              simp only [text_of_refines hkey htext, read_of_refines hnode hvalue]
              exact readEntries_of_refines hrest hread

theorem readFields_of_refines {entries : List (Node Place × Node Place)}
    {others : List (Node Place' × Node Place')} (h : RefinesEntries entries others)
    {r : RecordType} {before : Dict Json} {v : Json} (hread : readFields r before entries = .ok v) :
    readFields r before others = .ok v := by
  match entries, others with
  | [], [] => simpa only [readFields, Except.ok.injEq] using hread
  | [], _ :: _ => exact absurd h (by simp [RefinesEntries])
  | _ :: _, [] => exact absurd h (by simp [RefinesEntries])
  | (key, node) :: rest, (key', other) :: others =>
      obtain ⟨hkey, hnode, hrest⟩ := h
      simp only [readFields] at hread ⊢
      cases htext : key.text fieldName with
      | error e => simp [htext] at hread
      | ok name =>
          simp only [htext] at hread
          simp only [text_of_refines hkey htext]
          cases hconstant : r.constant? name with
          | some constant =>
              simp only [hconstant] at hread ⊢
              cases hvalue : readConstant constant key.keyStep node with
              | error e => simp [hvalue] at hread
              | ok found =>
                  have hother : readConstant constant key'.keyStep other = .ok found :=
                    readConstant_of_refines hnode hvalue
                  simp only [hvalue] at hread
                  simp only [hother]
                  exact readFields_of_refines hrest hread
          | none =>
              simp only [hconstant] at hread ⊢
              cases hfield : r.field? name with
              | none =>
                  simp only [hfield] at hread ⊢
                  exact readFields_of_refines hrest hread
              | some t =>
                  simp only [hfield] at hread ⊢
                  cases habsent : node.isAbsent with
                  | error e => simp [habsent] at hread
                  | ok absent =>
                      simp only [isAbsent_of_refines hnode habsent]
                      simp only [habsent] at hread
                      cases absent with
                      | true =>
                          simp only at hread ⊢
                          exact readFields_of_refines hrest hread
                      | false =>
                          cases hvalue : read t node with
                          | error e => simp [hvalue] at hread
                          | ok found =>
                              simp only [hvalue] at hread
                              simp only [read_of_refines hnode hvalue]
                              exact readFields_of_refines hrest hread

end

end Schema

end ResourceTemplate

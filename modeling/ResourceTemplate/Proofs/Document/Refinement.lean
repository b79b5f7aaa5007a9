import ResourceTemplate.Document.Node
import ResourceTemplate.Proofs.Json.Canonical

/-!
# Documents that are read alike

One document refines another when whatever can be read from the one can be read from the other, with
the same result.  The other may allow more readings, and the two may stand at different places and
be called differently in messages.

Every reader of this library keeps to that: what it reads from a document it also reads from every
document that the first refines to.
-/

namespace ResourceTemplate

namespace Document

/-- Whatever a scalar can be read as, another can be read as too.  Integers count as far as a reader
looks at them, which is 64 bits. -/
structure Scalar.Refines (s other : Scalar) : Prop where
  text : ∀ x, s.text? = some x → other.text? = some x
  flag : ∀ b, s.flag? = some b → other.flag? = some b
  integer : ∀ i, -Int.pow 2 63 ≤ i → i < Int.pow 2 63 → s.integer? = some i →
    other.integer? = some i
  free : ∀ v, s.free = .ok v → other.free = .ok v
  absence : ∀ b, s.absence = .ok b → other.absence = .ok b
  found : ∀ x, s.found = .text x ↔ other.found = .text x
  hollow : s.hollow = true → other.hollow = true

namespace Node

variable {Place Place' : Type}

mutual

/-- Two documents of one shape, of which each scalar of the first refines to that of the second. -/
def Refines : Node Place → Node Place' → Prop
  | scalar _ s, scalar _ other => s.Refines other
  | sequence _ loose items, sequence _ loose' items' => loose = loose' ∧ RefinesItems items items'
  | mapping _ loose entries, mapping _ loose' entries' =>
      loose = loose' ∧ RefinesEntries entries entries'
  | _, _ => False

/-- Items that refine one by one. -/
def RefinesItems : List (Node Place) → List (Node Place') → Prop
  | [], [] => True
  | item :: rest, item' :: rest' => item.Refines item' ∧ RefinesItems rest rest'
  | _, _ => False

/-- Entries that refine one by one. -/
def RefinesEntries : List (Node Place × Node Place) → List (Node Place' × Node Place') → Prop
  | [], [] => True
  | (key, value) :: rest, (key', value') :: rest' =>
      key.Refines key' ∧ value.Refines value' ∧ RefinesEntries rest rest'
  | _, _ => False

end

/-! ## Parts of a document -/

section Parts

variable {node : Node Place} {other : Node Place'}

theorem text_eq_ok_iff {wanted x : String} :
    node.text wanted = .ok x ↔ ∃ place s, node = scalar place s ∧ s.text? = some x := by
  constructor
  · intro h
    unfold text at h
    split at h
    next place found s label? flag? integer? free absence hollow =>
      exact ⟨place, _, rfl, congrArg some (Except.ok.inj h)⟩
    next => simp at h
  · rintro ⟨place, ⟨found, text?, label?, flag?, integer?, free, absence, hollow⟩, rfl, rfl⟩
    rfl

theorem flag_eq_ok_iff {wanted : String} {b : Bool} :
    node.flag wanted = .ok b ↔ ∃ place s, node = scalar place s ∧ s.flag? = some b := by
  constructor
  · intro h
    unfold flag at h
    split at h
    next place found text? label? b integer? free absence hollow =>
      exact ⟨place, _, rfl, congrArg some (Except.ok.inj h)⟩
    next => simp at h
  · rintro ⟨place, ⟨found, text?, label?, flag?, integer?, free, absence, hollow⟩, rfl, rfl⟩
    rfl

/-- Only a scalar refines a scalar. -/
theorem exists_of_refines_scalar {place : Place} {s : Scalar} (h : (scalar place s).Refines other) :
    ∃ place' s', other = scalar place' s' ∧ s.Refines s' := by
  cases other with
  | scalar place' s' => exact ⟨place', s', rfl, h⟩
  | sequence _ _ _ => simp [Refines] at h
  | mapping _ _ _ => simp [Refines] at h
  | unreadable _ => simp [Refines] at h

theorem exists_of_refines_sequence {place : Place} {loose : Bool} {items : List (Node Place)}
    (h : (sequence place loose items).Refines other) :
    ∃ place' items', other = sequence place' loose items' ∧ RefinesItems items items' := by
  cases other with
  | sequence place' loose' items' =>
      obtain ⟨rfl, hitems⟩ := h
      exact ⟨place', items', rfl, hitems⟩
  | scalar _ _ => simp [Refines] at h
  | mapping _ _ _ => simp [Refines] at h
  | unreadable _ => simp [Refines] at h

theorem exists_of_refines_mapping {place : Place} {loose : Bool}
    {entries : List (Node Place × Node Place)} (h : (mapping place loose entries).Refines other) :
    ∃ place' entries', other = mapping place' loose entries' ∧ RefinesEntries entries entries' := by
  cases other with
  | mapping place' loose' entries' =>
      obtain ⟨rfl, hentries⟩ := h
      exact ⟨place', entries', rfl, hentries⟩
  | scalar _ _ => simp [Refines] at h
  | sequence _ _ _ => simp [Refines] at h
  | unreadable _ => simp [Refines] at h

theorem text_of_refines (h : node.Refines other) {wanted wanted' x : String}
    (hread : node.text wanted = .ok x) : other.text wanted' = .ok x := by
  obtain ⟨place, s, rfl, htext⟩ := text_eq_ok_iff.mp hread
  obtain ⟨place', s', rfl, hs⟩ := exists_of_refines_scalar h
  exact text_eq_ok_iff.mpr ⟨place', s', rfl, hs.text x htext⟩

theorem flag_of_refines (h : node.Refines other) {wanted : String} {b : Bool}
    (hread : node.flag wanted = .ok b) : other.flag wanted = .ok b := by
  obtain ⟨place, s, rfl, hflag⟩ := flag_eq_ok_iff.mp hread
  obtain ⟨place', s', rfl, hs⟩ := exists_of_refines_scalar h
  exact flag_eq_ok_iff.mpr ⟨place', s', rfl, hs.flag b hflag⟩

theorem isAbsent_of_refines (h : node.Refines other) {b : Bool} (hread : node.isAbsent = .ok b) :
    other.isAbsent = .ok b := by
  cases node with
  | scalar place s =>
      obtain ⟨place', s', rfl, hs⟩ := exists_of_refines_scalar h
      have habsence : s.absence = .ok b := by
        cases hs' : s.absence with
        | ok absent => simpa [isAbsent, hs'] using hread
        | error cause => simp [isAbsent, hs'] at hread
      simp only [isAbsent, hs.absence b habsence]
  | sequence place loose items =>
      obtain ⟨place', items', rfl, hitems⟩ := exists_of_refines_sequence h
      simpa only [isAbsent, Except.ok.injEq] using hread
  | mapping place loose entries =>
      obtain ⟨place', entries', rfl, hentries⟩ := exists_of_refines_mapping h
      simpa only [isAbsent, Except.ok.injEq] using hread
  | unreadable place => simp [Refines] at h

theorem optionalText_of_refines (h : node.Refines other) {wanted : String} {x? : Option String}
    (hread : node.optionalText wanted = .ok x?) : other.optionalText wanted = .ok x? := by
  unfold optionalText at hread ⊢
  cases habsent : node.isAbsent with
  | error v => simp [habsent] at hread
  | ok absent =>
      rw [isAbsent_of_refines h habsent]
      rw [habsent] at hread
      cases absent with
      | true => simpa only [Except.ok.injEq] using hread
      | false =>
          obtain ⟨x, htext, rfl⟩ := exists_of_map_eq_ok hread
          simp only [text_of_refines h htext, Except.map]

theorem items_of_refines (h : node.Refines other) {wanted : String} {found : List (Node Place)}
    (hread : node.items wanted = .ok found) :
    ∃ found', other.items wanted = .ok found' ∧ RefinesItems found found' := by
  cases node with
  | scalar place s =>
      obtain ⟨place', s', rfl, hs⟩ := exists_of_refines_scalar h
      cases hhollow : s.hollow with
      | true =>
          have hfound : [] = found := by simpa [items, hhollow] using hread
          subst hfound
          exact ⟨[], by simp [items, hs.hollow hhollow], trivial⟩
      | false => simp [items, hhollow] at hread
  | sequence place loose items =>
      obtain ⟨place', items', rfl, hitems⟩ := exists_of_refines_sequence h
      obtain rfl : items = found := Except.ok.inj hread
      exact ⟨items', rfl, hitems⟩
  | mapping place loose entries => simp [items] at hread
  | unreadable place => simp [items] at hread

theorem entries_of_refines (h : node.Refines other) {wanted wanted' : String}
    {found : List (Node Place × Node Place)} (hread : node.entries wanted = .ok found) :
    ∃ found', other.entries wanted' = .ok found' ∧ RefinesEntries found found' := by
  cases node with
  | scalar place s =>
      obtain ⟨place', s', rfl, hs⟩ := exists_of_refines_scalar h
      cases hhollow : s.hollow with
      | true =>
          have hfound : [] = found := by simpa [entries, hhollow] using hread
          subst hfound
          exact ⟨[], by simp [entries, hs.hollow hhollow], trivial⟩
      | false => simp [entries, hhollow] at hread
  | sequence place loose items => simp [entries] at hread
  | mapping place loose found =>
      obtain ⟨place', entries', rfl, hentries⟩ := exists_of_refines_mapping h
      obtain rfl := Except.ok.inj hread
      exact ⟨entries', rfl, hentries⟩
  | unreadable place => simp [entries] at hread

end Parts

/-! ## Values -/

mutual

theorem value_of_refines {node : Node Place} {other : Node Place'} (h : node.Refines other)
    {v : Json} (hread : node.value = .ok v) : other.value = .ok v := by
  match node with
  | scalar place s =>
      obtain ⟨place', s', rfl, hs⟩ := exists_of_refines_scalar h
      have hfree : s.free = .ok v := by
        cases hs' : s.free with
        | ok found => simpa [value, hs'] using hread
        | error cause => simp [value, hs'] at hread
      simp only [value, hs.free v hfree]
  | sequence place loose items =>
      obtain ⟨place', items', rfl, hitems⟩ := exists_of_refines_sequence h
      cases loose with
      | false => simp [value] at hread
      | true =>
          simp only [value, if_true] at hread ⊢
          obtain ⟨found, hvalues, rfl⟩ := exists_of_map_eq_ok hread
          rw [values_of_refines hitems hvalues]
          rfl
  | mapping place loose entries =>
      obtain ⟨place', entries', rfl, hentries⟩ := exists_of_refines_mapping h
      cases loose with
      | false => simp [value] at hread
      | true =>
          simp only [value, if_true] at hread ⊢
          obtain ⟨found, hmembers, rfl⟩ := exists_of_map_eq_ok hread
          rw [members_of_refines hentries hmembers]
          rfl
  | unreadable place => simp [value] at hread

theorem values_of_refines {items : List (Node Place)} {others : List (Node Place')}
    (h : RefinesItems items others) {index : Nat} {found : List Json}
    (hread : values index items = .ok found) : values index others = .ok found := by
  match items, others with
  | [], [] => simpa only [values, Except.ok.injEq] using hread
  | [], _ :: _ => exact absurd h (by simp [RefinesItems])
  | _ :: _, [] => exact absurd h (by simp [RefinesItems])
  | item :: rest, other :: others =>
      obtain ⟨hitem, hrest⟩ := h
      simp only [values] at hread ⊢
      cases hvalue : item.value with
      | error v => simp [hvalue] at hread
      | ok v =>
          cases hvalues : values (index + 1) rest with
          | error e => simp [hvalue, hvalues] at hread
          | ok vs =>
              rw [value_of_refines hitem hvalue, values_of_refines hrest hvalues]
              simpa only [hvalue, hvalues, Except.ok.injEq] using hread

theorem members_of_refines {entries : List (Node Place × Node Place)}
    {others : List (Node Place' × Node Place')} (h : RefinesEntries entries others)
    {before found : Dict Json} (hread : members before entries = .ok found) :
    members before others = .ok found := by
  match entries, others with
  | [], [] => simpa only [members, Except.ok.injEq] using hread
  | [], _ :: _ => exact absurd h (by simp [RefinesEntries])
  | _ :: _, [] => exact absurd h (by simp [RefinesEntries])
  | (key, item) :: rest, (key', item') :: others =>
      obtain ⟨hkey, hitem, hrest⟩ := h
      simp only [members] at hread ⊢
      cases htext : key.text stringKey with
      | error v => simp [htext] at hread
      | ok k =>
          cases hvalue : item.value with
          | error v => simp [htext, hvalue] at hread
          | ok v =>
              simp only [htext, hvalue] at hread
              simp only [text_of_refines hkey htext, value_of_refines hitem hvalue]
              exact members_of_refines hrest hread

end

end Node

end Document

end ResourceTemplate

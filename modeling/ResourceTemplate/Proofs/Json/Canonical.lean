import ResourceTemplate.Json.Reader
import ResourceTemplate.Proofs.Dict.Ordered
import ResourceTemplate.Proofs.Outcome

/-!
# Values that are read are canonical

The value of a document tree has the keys of its objects in order, whatever the order of the entries
in the tree, as soon as the scalars of the tree stand for canonical values.  Those of a tree read
from a JSON text do, as none of them stands for more than a null, a truth value, a number or a text.
-/

namespace ResourceTemplate

namespace Json

theorem canonicalMembers_iff {members : List (String × Json)} :
    CanonicalMembers members ↔ ∀ entry ∈ members, entry.2.Canonical := by
  induction members with
  | nil => simp [CanonicalMembers]
  | cons entry rest ih =>
      obtain ⟨key, value⟩ := entry
      simp [CanonicalMembers, ih]

theorem Canonical.find? {members : Dict Json} (h : Canonical (.object members)) {key : String}
    {value : Json} (hfind : members.find? key = some value) : value.Canonical :=
  canonicalMembers_iff.mp h.2 (key, value) (Dict.mem_of_find? hfind)

theorem Canonical.erase {members : Dict Json} (h : Canonical (.object members)) (key : String) :
    Canonical (.object (members.erase key)) := by
  refine ⟨h.1.erase key, canonicalMembers_iff.mpr fun entry hentry => ?_⟩
  exact canonicalMembers_iff.mp h.2 entry (List.mem_filter.mp hentry).1

/-- Storing a canonical value in an object keeps it canonical. -/
theorem Canonical.insert {members : Dict Json} (h : Canonical (.object members)) (key : String)
    {value : Json} (hvalue : value.Canonical) : Canonical (.object (members.insert key value)) := by
  refine ⟨h.1.insert key value, canonicalMembers_iff.mpr fun entry hentry => ?_⟩
  rcases Dict.eq_or_mem_of_mem_insert hentry with rfl | hentry
  · exact hvalue
  · exact canonicalMembers_iff.mp h.2 entry hentry

end Json

namespace Document.Node

variable {Place : Type}

mutual

/-- Every scalar in the tree stands for a canonical value, if for any. -/
def Sound : Node Place → Prop
  | scalar _ s => ∀ v, s.free = .ok v → v.Canonical
  | sequence _ _ items => SoundItems items
  | mapping _ _ entries => SoundEntries entries
  | unreadable _ => True

/-- Every item is sound. -/
def SoundItems : List (Node Place) → Prop
  | [] => True
  | item :: rest => item.Sound ∧ SoundItems rest

/-- What stands behind each key is sound. -/
def SoundEntries : List (Node Place × Node Place) → Prop
  | [] => True
  | (_, item) :: rest => item.Sound ∧ SoundEntries rest

end

theorem soundItems_iff {items : List (Node Place)} :
    SoundItems items ↔ ∀ item ∈ items, item.Sound := by
  induction items with
  | nil => simp [SoundItems]
  | cons item rest ih => simp [SoundItems, ih]

theorem soundEntries_iff {entries : List (Node Place × Node Place)} :
    SoundEntries entries ↔ ∀ entry ∈ entries, entry.2.Sound := by
  induction entries with
  | nil => simp [SoundEntries]
  | cons entry rest ih =>
      obtain ⟨key, item⟩ := entry
      simp [SoundEntries, ih]

mutual

/-- The value of a sound tree is canonical. -/
theorem Sound.value {node : Node Place} (h : node.Sound) {v : Json} (hv : node.value = .ok v) :
    v.Canonical := by
  match node with
  | scalar p s =>
      unfold Node.value at hv
      split at hv
      next w hfree =>
        obtain rfl := Except.ok.inj hv
        exact h w hfree
      next => exact absurd hv (by simp)
  | sequence p loose items =>
      unfold Node.value at hv
      split at hv
      · obtain ⟨vs, hitems, rfl⟩ := exists_of_map_eq_ok hv
        exact SoundItems.values h hitems
      · exact absurd hv (by simp)
  | mapping p loose entries =>
      unfold Node.value at hv
      split at hv
      · -- The object grows by insertions from the empty one, and is canonical all the while.
        obtain ⟨found, hentries, rfl⟩ := exists_of_map_eq_ok hv
        exact SoundEntries.members h ⟨List.Pairwise.nil, trivial⟩ hentries
      · exact absurd hv (by simp)
  | unreadable p => exact absurd hv (by simp [Node.value])

theorem SoundItems.values {items : List (Node Place)} (h : SoundItems items) {index : Nat}
    {vs : List Json} (hvs : values index items = .ok vs) : Json.CanonicalItems vs := by
  match items with
  | [] =>
      obtain rfl := Except.ok.inj hvs
      exact trivial
  | item :: rest =>
      unfold Node.values at hvs
      split at hvs
      next => exact absurd hvs (by simp)
      next v hv =>
        split at hvs
        next => exact absurd hvs (by simp)
        next others hothers =>
          obtain rfl := Except.ok.inj hvs
          exact ⟨h.1.value hv, SoundItems.values h.2 hothers⟩

theorem SoundEntries.members {entries : List (Node Place × Node Place)} (h : SoundEntries entries)
    {before : Dict Json} (hbefore : Json.Canonical (.object before)) {found : Dict Json}
    (hfound : members before entries = .ok found) : Json.Canonical (.object found) := by
  match entries with
  | [] =>
      obtain rfl := Except.ok.inj hfound
      exact hbefore
  | (key, item) :: rest =>
      unfold Node.members at hfound
      split at hfound
      next => exact absurd hfound (by simp)
      next k hk =>
        split at hfound
        next => exact absurd hfound (by simp)
        next v hv => exact SoundEntries.members h.2 (hbefore.insert k (h.1.value hv)) hfound

end

end Document.Node

namespace Json

open Document Document.Node

/-! ## Trees of JSON texts -/

/-- What holds of the result of a reading that was not stopped. -/
def Outcome.Gives {α : Type} (P : α → Prop) : Outcome α → Prop
  | done result _ => P result
  | stop _ _ => True

theorem sound_scalarOf {value : Json} (h : value.Canonical) (span : Span) :
    Sound (.scalar span (scalarOf value)) := by
  intro v hv
  have hfree : (scalarOf value).free = .ok value := by
    unfold scalarOf
    split <;> rfl
  rw [hfree] at hv
  obtain rfl := Except.ok.inj hv
  exact h

theorem scalarOutcome_gives {α : Type} (c : Cursor) (read : Except Failure α) (f : α → Json × Cursor)
    (h : ∀ r, (f r).1.Canonical) : (scalarOutcome c (read.map f)).Gives Sound := by
  cases read with
  | error failure => exact trivial
  | ok r => exact sound_scalarOf (h r) (spanOf c (f r).2)

/-- What the readers give with an amount of fuel. -/
structure ReadersSound (fuel : Nat) : Prop where
  value : ∀ depth place, (readValue fuel depth place).Gives Sound
  items : ∀ depth before place, SoundItems before →
    (readItems fuel depth before place).Gives SoundItems
  item : ∀ depth before place, SoundItems before →
    (readItem fuel depth before place).Gives SoundItems
  entries : ∀ depth before place, SoundEntries before →
    (readEntries fuel depth before place).Gives SoundEntries
  entry : ∀ depth before place, SoundEntries before →
    (readEntry fuel depth before place).Gives SoundEntries

theorem readersSound_zero : ReadersSound 0 where
  value := by
    intro depth place
    rw [readValue]
    exact trivial
  items := by
    intro depth before place _
    rw [readItems]
    exact trivial
  item := by
    intro depth before place _
    rw [readItem]
    exact trivial
  entries := by
    intro depth before place _
    rw [readEntries]
    exact trivial
  entry := by
    intro depth before place _
    rw [readEntry]
    exact trivial

namespace ReadersSound

variable {fuel : Nat} (h : ReadersSound fuel)
include h

theorem value_succ (depth : Nat) (place : Cursor) :
    (readValue (fuel + 1) depth place).Gives Sound := by
  rw [readValue]
  dsimp only
  split
  · exact trivial
  · exact scalarOutcome_gives _ _ _ fun _ => trivial
  · exact scalarOutcome_gives _ _ _ fun _ => trivial
  · exact scalarOutcome_gives _ _ _ fun _ => trivial
  · exact scalarOutcome_gives _ _ _ fun _ => trivial
  · exact scalarOutcome_gives _ _ _ fun _ => trivial
  next rest _ =>
    split
    · exact trivial
    · have hitems := h.items (depth - 1) [] ⟨place.skipBlank.offset + 1, rest⟩ trivial
      split
      next items next hread =>
        rw [hread] at hitems
        exact hitems
      · exact trivial
  next rest _ =>
    split
    · exact trivial
    · have hentries := h.entries (depth - 1) [] ⟨place.skipBlank.offset + 1, rest⟩ trivial
      split
      next entries next hread =>
        rw [hread] at hentries
        exact hentries
      · exact trivial
  · split
    · exact scalarOutcome_gives _ _ _ fun _ => trivial
    · exact trivial

theorem items_succ (depth : Nat) {before : List (Node Span)} (place : Cursor)
    (hbefore : SoundItems before) : (readItems (fuel + 1) depth before place).Gives SoundItems := by
  rw [readItems]
  dsimp only
  split
  · exact trivial
  · -- The list is closed here.
    refine soundItems_iff.mpr fun item hitem => ?_
    exact soundItems_iff.mp hbefore item (List.mem_reverse.mp hitem)
  · split
    · exact h.item depth before _ hbefore
    · split
      · split
        · exact trivial
        · exact trivial
        · exact h.item depth before _ hbefore
      · exact trivial

theorem item_succ (depth : Nat) {before : List (Node Span)} (place : Cursor)
    (hbefore : SoundItems before) : (readItem (fuel + 1) depth before place).Gives SoundItems := by
  rw [readItem]
  have hvalue := h.value depth place
  split
  next item next hread =>
    rw [hread] at hvalue
    exact h.items depth (item :: before) next ⟨hvalue, hbefore⟩
  · exact trivial

theorem entries_succ (depth : Nat) {before : List (Node Span × Node Span)} (place : Cursor)
    (hbefore : SoundEntries before) :
    (readEntries (fuel + 1) depth before place).Gives SoundEntries := by
  rw [readEntries]
  dsimp only
  split
  · exact trivial
  · -- The object is closed here.
    refine soundEntries_iff.mpr fun entry hentry => ?_
    exact soundEntries_iff.mp hbefore entry (List.mem_reverse.mp hentry)
  · split
    · split
      · exact h.entry depth before _ hbefore
      · exact trivial
    · split
      · split
        · exact trivial
        · exact h.entry depth before _ hbefore
        · exact trivial
        · exact trivial
      · exact trivial

theorem entry_succ (depth : Nat) {before : List (Node Span × Node Span)} (place : Cursor)
    (hbefore : SoundEntries before) :
    (readEntry (fuel + 1) depth before place).Gives SoundEntries := by
  rw [readEntry]
  split
  · exact trivial
  · dsimp only
    split
    · exact trivial
    next name behind _ _ rest _ =>
      have hvalue := h.value depth ⟨behind.skipBlank.offset + 1, rest⟩
      split
      next item next hread =>
        rw [hread] at hvalue
        exact h.entries depth (_ :: before) next ⟨hvalue, hbefore⟩
      · exact trivial
    · exact trivial

theorem succ : ReadersSound (fuel + 1) where
  value := h.value_succ
  items := fun depth _ place hbefore => h.items_succ depth place hbefore
  item := fun depth _ place hbefore => h.item_succ depth place hbefore
  entries := fun depth _ place hbefore => h.entries_succ depth place hbefore
  entry := fun depth _ place hbefore => h.entry_succ depth place hbefore

end ReadersSound

theorem readersSound (fuel : Nat) : ReadersSound fuel := by
  induction fuel with
  | zero => exact readersSound_zero
  | succ fuel ih => exact ih.succ

theorem sound_readDocument {text : List Char} {node : Node Span}
    (h : readDocument text = (node, none)) : node.Sound := by
  have hvalue := (readersSound (3 * text.length + 3)).value nestingLimit (Cursor.start text)
  unfold readDocument at h
  split at h
  · exact absurd (congrArg Prod.snd h) (by simp)
  next found next hread =>
    rw [hread] at hvalue
    dsimp only at h
    split at h
    · obtain rfl := congrArg Prod.fst h
      exact hvalue
    · exact absurd (congrArg Prod.snd h) (by simp)

/-- What is read from a text is canonical. -/
theorem canonical_of_parse {text : String} {value : Json} (h : parse text = .ok value) :
    value.Canonical := by
  unfold parse at h
  dsimp only at h
  split at h
  · exact absurd h (by simp)
  next node hread =>
    split at h
    next v hv =>
      obtain rfl := Except.ok.inj h
      exact (sound_readDocument hread).value hv
    · exact absurd h (by simp)

end Json

end ResourceTemplate

import Mathlib.Data.List.Basic
import ResourceTemplate.File.Directory

/-!
# What is under a path after a file was written

A path that goes down only, from name to name, is looked up by its names.  A file that is written
where a file stands or nothing does is what is found there afterwards; under a path that neither
leads to it nor goes through it, the same is found as before.

Nothing is said of paths that go back or stay where they are.
-/

namespace ResourceTemplate.FileNode

variable {text? : Option String} {name : String} {names other : List String}

/-- A name that goes down. -/
structure Descends (name : String) : Prop where
  ne_empty : name ≠ ""
  ne_here : name ≠ "."
  ne_back : name ≠ ".."

/-- What stands under names that go down. -/
def lookup : FileNode → List String → Except FileError FileNode
  | node, [] => .ok node
  | file _, _ :: _ => .error .notDirectory
  | directory entries, name :: names =>
      match entry? name entries with
      | none => .error .notFound
      | some node => lookup node names

theorem follow_eq_lookup (h : ∀ name ∈ names, Descends name) (back : List FileNode)
    (node : FileNode) : follow back node names = node.lookup names := by
  induction names generalizing back node with
  | nil => rfl
  | cons name names ih =>
      obtain ⟨hname, hnames⟩ := List.forall_mem_cons.mp h
      cases node with
      | file old => rfl
      | directory entries =>
          simp only [follow, lookup, hname.ne_empty, hname.ne_here, hname.ne_back, or_self,
            if_false]
          cases entry? name entries with
          | none => rfl
          | some node => exact ih hnames _ node

/-! ## Entries -/

theorem lookup_single (text? : Option String) (names : List String) :
    (single text? names).lookup names = .ok (file text?) := by
  induction names with
  | nil => rfl
  | cons name names ih => simp only [single, lookup, entry?, if_true, ih]

/-- The entry that is written is the old one with the file put into it, or a new one. -/
theorem entry?_writeEntry (entries : List (String × FileNode)) :
    entry? name (writeEntry text? name names entries) =
      some (match entry? name entries with
        | none => single text? names
        | some node => node.write text? names) := by
  induction entries with
  | nil => simp [writeEntry, entry?]
  | cons entry entries ih =>
      obtain ⟨key, node⟩ := entry
      by_cases hkey : key = name
      · simp only [writeEntry, entry?, hkey, if_true]
      · simp only [writeEntry, entry?, hkey, if_false, ih]

theorem entry?_writeEntry_of_ne {key : String} (h : name ≠ key)
    (entries : List (String × FileNode)) :
    entry? key (writeEntry text? name names entries) = entry? key entries := by
  induction entries with
  | nil => simp [writeEntry, entry?, h]
  | cons entry entries ih =>
      obtain ⟨first, node⟩ := entry
      by_cases hfirst : first = name
      · subst hfirst
        simp only [writeEntry, entry?, h, if_true, if_false]
      · simp only [writeEntry, entry?, hfirst, if_false, ih]

/-! ## Files that are written -/

/-- A file can be written under names: one stands there, or nothing does and no file is in the way.
-/
inductive Writable : FileNode → List String → Prop
  | replaced (old : Option String) : Writable (file old) []
  | added {entries : List (String × FileNode)} {name : String} (names : List String)
      (h : entry? name entries = none) : Writable (directory entries) (name :: names)
  | within {entries : List (String × FileNode)} {name : String} {names : List String}
      {node : FileNode} (h : entry? name entries = some node) (hnode : Writable node names) :
      Writable (directory entries) (name :: names)

theorem lookup_write {node : FileNode} (h : Writable node names) :
    (node.write text? names).lookup names = .ok (file text?) := by
  induction h with
  | replaced old => rfl
  | added names hentry =>
      simp only [write, lookup, entry?_writeEntry, hentry, lookup_single]
  | within hentry _ ih =>
      simp only [write, lookup, entry?_writeEntry, hentry, ih]

/-- Neither of two paths leads to what the other one stands for. -/
def Apart (names other : List String) : Prop := ¬names <+: other ∧ ¬other <+: names

theorem Apart.of_cons {name : String} (h : Apart (name :: names) (name :: other)) :
    Apart names other :=
  ⟨fun hle => h.1 ((List.prefix_cons_inj name).mpr hle),
    fun hle => h.2 ((List.prefix_cons_inj name).mpr hle)⟩

theorem lookup_single_of_apart (h : Apart names other) :
    (single text? names).lookup other = .error .notFound := by
  induction names generalizing other with
  | nil => exact absurd List.nil_prefix h.1
  | cons name names ih =>
      cases other with
      | nil => exact absurd List.nil_prefix h.2
      | cons key other =>
          by_cases hkey : name = key
          · subst hkey
            simp only [single, lookup, entry?, if_true, ih h.of_cons]
          · simp only [single, lookup, entry?, hkey, if_false]

/-- What is apart from a written file is found as before. -/
theorem lookup_write_of_apart (node : FileNode) (h : Apart names other) :
    (node.write text? names).lookup other = node.lookup other := by
  induction names generalizing node other with
  | nil => exact absurd List.nil_prefix h.1
  | cons name names ih =>
      cases node with
      | file old => rfl
      | directory entries =>
          cases other with
          | nil => exact absurd List.nil_prefix h.2
          | cons key other =>
              by_cases hkey : name = key
              · subst hkey
                have hrest := h.of_cons
                cases hentry : entry? name entries with
                | some node =>
                    simp only [write, lookup, entry?_writeEntry, hentry, ih node hrest]
                | none =>
                    simp only [write, lookup, entry?_writeEntry, hentry,
                      lookup_single_of_apart hrest]
              · simp only [write, lookup, entry?_writeEntry_of_ne hkey]

/-! ## Texts under paths -/

/-- A path that goes down only. -/
structure Downward (path : String) : Prop where
  ne_empty : path ≠ ""
  relative : path.startsWith "/" = false
  descends : ∀ name ∈ pathNames path, Descends name

/-- The text of a file. -/
def textOf : FileNode → FileAnswer
  | file (some text) => .ok text
  | file none => .error .notText
  | directory _ => .error .isDirectory

theorem read_eq_lookup {path : String} (h : Downward path) (root : FileNode) :
    root.read path = root.lookup (pathNames path) >>= textOf := by
  have hnot : ¬(path = "" ∨ path.startsWith "/" = true) := by
    rintro (rfl | hslash)
    · exact h.ne_empty rfl
    · simp [h.relative] at hslash
  rw [read, if_neg hnot, follow_eq_lookup h.descends]
  cases root.lookup (pathNames path) with
  | error e => rfl
  | ok node =>
      cases node with
      | file text? => cases text? <;> rfl
      | directory entries => rfl

/-- A text that is written is read. -/
theorem read_write {root : FileNode} {path : String} (h : Downward path)
    (hroot : Writable root (pathNames path)) (text : String) :
    (root.write (some text) (pathNames path)).read path = .ok text := by
  rw [read_eq_lookup h, lookup_write hroot]
  rfl

/-- What is read elsewhere is not changed by it. -/
theorem read_write_of_apart {path : String} (h : Downward path) (root : FileNode)
    (hapart : Apart names (pathNames path)) :
    (root.write text? names).read path = root.read path := by
  rw [read_eq_lookup h, read_eq_lookup h, lookup_write_of_apart root hapart]

end ResourceTemplate.FileNode

import ResourceTemplate.Yaml.Mark
import ResourceTemplate.Yaml.Style
import ResourceTemplate.Yaml.Tag

/-!
# Markup

A document as it is written.  An alias does not contain what it refers to, but its number; a node
that is referred to has that number.  Numbers are given in the order of the document, and a number
may be given twice: then the later node counts.
-/

namespace ResourceTemplate.Yaml

/-- A node as it is written. -/
inductive Markup where
  | scalar (place : Mark) (number? : Option Nat) (tag? : Option Tag) (style : Style)
      (text : String)
  | sequence (place : Mark) (number? : Option Nat) (tag? : Option Tag) (items : List Markup)
  | mapping (place : Mark) (number? : Option Nat) (tag? : Option Tag)
      (entries : List (Markup × Markup))
  | aliasNode (place : Mark) (number : Nat)

namespace Markup

/-- The node that stands where nothing is written. -/
def empty (place : Mark) : Markup := .scalar place none none .plain ""

mutual

/-- The nodes that have numbers, in the order of the document. -/
def numbered : Markup → List (Nat × Markup)
  | scalar place number? tag? style text =>
      (number?.map fun n => (n, scalar place number? tag? style text)).toList
  | sequence place number? tag? items =>
      (number?.map fun n => (n, sequence place number? tag? items)).toList ++ numberedItems items
  | mapping place number? tag? entries =>
      (number?.map fun n => (n, mapping place number? tag? entries)).toList ++
        numberedEntries entries
  | aliasNode _ _ => []

/-- The nodes among items that have numbers. -/
def numberedItems : List Markup → List (Nat × Markup)
  | [] => []
  | item :: rest => item.numbered ++ numberedItems rest

/-- The nodes among entries that have numbers. -/
def numberedEntries : List (Markup × Markup) → List (Nat × Markup)
  | [] => []
  | (key, value) :: rest => key.numbered ++ value.numbered ++ numberedEntries rest

end

mutual

/-- The size of a node: one for a scalar or an alias, two for a collection beside its content. -/
def size : Markup → Nat
  | scalar _ _ _ _ _ => 1
  | aliasNode _ _ => 1
  | sequence _ _ _ items => 2 + itemsSize items
  | mapping _ _ _ entries => 2 + entriesSize entries

/-- The size of items. -/
def itemsSize : List Markup → Nat
  | [] => 0
  | item :: rest => item.size + itemsSize rest

/-- The size of entries. -/
def entriesSize : List (Markup × Markup) → Nat
  | [] => 0
  | (key, value) :: rest => key.size + value.size + entriesSize rest

end

/-- The node that a number stands for. -/
def target? (root : Markup) (number : Nat) : Option Markup :=
  (root.numbered.reverse.find? fun entry => entry.1 = number).map Prod.snd

end Markup

end ResourceTemplate.Yaml

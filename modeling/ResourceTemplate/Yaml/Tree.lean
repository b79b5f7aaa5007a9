import ResourceTemplate.Yaml.Markup

/-!
# Trees

A document with every alias replaced by what it refers to.  Collections may be nested to a depth of
128, and aliases may be followed a hundred times as often as the document is large; what lies beyond
is not read.
-/

namespace ResourceTemplate.Yaml

/-- A node without aliases. -/
inductive Tree where
  /-- A scalar; `direct` says whether it was written in place. -/
  | scalar (place : Mark) (direct : Bool) (tag? : Option Tag) (style : Style) (text : String)
  | sequence (place : Mark) (tag? : Option Tag) (items : List Tree)
  | mapping (place : Mark) (tag? : Option Tag) (entries : List (Tree × Tree))
  /-- What lies beyond the limits. -/
  | beyond (place : Mark)

namespace Tree

/-- The greatest nesting. -/
def depthLimit : Nat := 128

/-- How often aliases may be followed, for each unit of the size of the document. -/
def aliasFactor : Nat := 100

/-- The tree of a document that is not there. -/
def empty : Tree := .scalar .start true none .plain ""

/-- Follow an alias, if that can be done once more. -/
def follow (target? : Nat → Option Markup) (node : Markup) : StateM Nat (Option (Bool × Markup)) := do
  match node with
  | .aliasNode _ number =>
      match ← get with
      | 0 => return none
      | left + 1 =>
          set left
          return (target? number).map (false, ·)
  | other => return some (true, other)

/-- The tree of a node, with so much nesting left. -/
def expand (target? : Nat → Option Markup) : Nat → Markup → StateM Nat Tree
  | depth, node => do
      match ← follow target? node with
      | none => return .beyond .start
      | some (direct, .scalar place _ tag? style text) =>
          return .scalar place direct tag? style text
      | some (_, .aliasNode place _) => return .beyond place
      | some (_, .sequence place _ tag? items) =>
          match depth with
          | 0 => return .beyond place
          | depth + 1 => return .sequence place tag? (← items.mapM (expand target? depth))
      | some (_, .mapping place _ tag? entries) =>
          match depth with
          | 0 => return .beyond place
          | depth + 1 =>
              let children ← entries.mapM fun entry => do
                let key ← expand target? depth entry.1
                return (key, ← expand target? depth entry.2)
              return .mapping place tag? children

/-- The tree of a document. -/
def ofMarkup (root : Markup) : Tree :=
  ((expand root.target? depthLimit root).run (aliasFactor * root.size)).1

end Tree

end ResourceTemplate.Yaml

import ResourceTemplate.Manifest.Basic
import ResourceTemplate.Text.Table

/-!
# Plans

A plan tells, object by object and in their order, what would be applied to a cluster.  Each entry
names the object by what its raw value says; it is applied when there is a manifest of it and
skipped otherwise.
-/

namespace ResourceTemplate.Command

/-- What is planned for an object. -/
structure PlanEntry where
  kind? : Option String
  name? : Option String
  namespaceName? : Option String
  /-- Whether the object would be applied. -/
  applied : Bool
deriving DecidableEq

namespace PlanEntry

/-- The entry of an object. -/
def ofObject (o : RenderedObject) : PlanEntry :=
  ⟨o.kind?, o.name?, o.namespaceName?, o.manifest?.isSome⟩

/-- What stands in a table where there is nothing to say. -/
def absent : String := "-"

/-- The wording of what is planned. -/
def result (e : PlanEntry) : String := if e.applied then "would apply" else "skipped"

/-- The cells of an entry. -/
def cells (e : PlanEntry) : List String :=
  [e.kind?.getD absent, e.name?.getD absent, e.namespaceName?.getD absent, e.result]

end PlanEntry

/-- What is planned for objects. -/
def plan (objects : List RenderedObject) : List PlanEntry := objects.map PlanEntry.ofObject

/-- The names of the columns of a plan. -/
def planHeader : List String := ["kind", "name", "namespace", "result"]

/-- The table of a plan. -/
def planTable (entries : List PlanEntry) : Text.Table :=
  { header := planHeader.map Text.Cell.ofString
    rows := entries.map fun e => e.cells.map Text.Cell.ofString }

/-- The text of a plan. -/
def planText (entries : List PlanEntry) : String :=
  s!"[dry-run] {entries.length} objects rendered\n"
    ++ if entries.isEmpty then "" else (planTable entries).text

end ResourceTemplate.Command

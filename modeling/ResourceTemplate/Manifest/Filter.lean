import ResourceTemplate.Manifest.Basic

/-!
# Filters

A filter is any test on rendered objects.  Those that are given names here look at the kind that an
object states.  A chain of filters keeps the objects that all of them accept, in their order; the
empty chain keeps everything.
-/

namespace ResourceTemplate

/-- A test on rendered objects. -/
structure Filter where
  /-- Whether the filter accepts an object. -/
  accepts : RenderedObject → Bool

namespace Filter

/-- The kind of namespaces. -/
def namespaceKind : String := "Namespace"

/-- Accept namespaces. -/
def namespaces : Filter := ⟨fun o => o.kind? = some namespaceKind⟩

/-- Accept everything but namespaces. -/
def allButNamespaces : Filter := ⟨fun o => o.kind? ≠ some namespaceKind⟩

/-- Accept some kinds. -/
def kinds (names : List String) : Filter :=
  ⟨fun o =>
    match o.kind? with
    | some kind => names.contains kind
    | none => false⟩

/-- The objects that every filter of a chain accepts. -/
def keep (chain : List Filter) (objects : List RenderedObject) : List RenderedObject :=
  objects.filter fun o => chain.all (·.accepts o)

theorem keep_nil (objects : List RenderedObject) : keep [] objects = objects := by
  simp [keep]

end Filter

end ResourceTemplate

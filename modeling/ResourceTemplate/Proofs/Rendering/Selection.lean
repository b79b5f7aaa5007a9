import ResourceTemplate.Proofs.Manifest.Conversion
import ResourceTemplate.Proofs.Rendering.Session

/-!
# What a rendering selects

Scheme and filters come in only after the template has been expanded.  Whatever they are, the same
template is left behind.  Every expanded object is decoded, whether or not a filter would drop it,
and the error of the first that cannot be decoded is the error of the rendering.  When all are
decoded, those that every filter accepts are kept, in the order of the template.

So filters may as well be used afterwards: a rendering with two chains in a row, in either order, is
a rendering with one of them whose objects are filtered with the other.
-/

namespace ResourceTemplate

namespace Filter

end Filter

/-- The objects that are selected of some values: their decodings, as far as every filter accepts
them. -/
def Selected (scheme : Scheme) (filters : List Filter) (values : List Json)
    (rendered : List RenderedObject) : Prop :=
  ∃ decoded, List.Forall₂ scheme.DecodesTo values decoded ∧
    rendered = decoded.filter fun o => ∀ filter ∈ filters, filter.accepts o = true

/-- The values of selected objects stand in their order among the values that were there. -/
theorem Selected.sublist {scheme : Scheme} {filters : List Filter} {values : List Json}
    {rendered : List RenderedObject} (h : Selected scheme filters values rendered) :
    (rendered.map (·.raw)).Sublist values := by
  obtain ⟨decoded, hdecoded, rfl⟩ := h
  have hkept := (List.filter_sublist (p := fun o => ∀ filter ∈ filters, filter.accepts o = true)
    (l := decoded)).map RenderedObject.raw
  rwa [Scheme.map_raw_of_decodesTo hdecoded] at hkept

section Objects

variable {scheme : Scheme} {filters : List Filter} {values : List Json}

end Objects

namespace Rendering

open Expression Expansion

variable {State : Type} (generators : GeneratorSet State) (state : State) (scheme : Scheme)
  (filters : List Filter) {given : Dict String} {t : Template}

/-- A scheme that takes no config map for one. -/
def strictScheme : Scheme :=
  .register .empty ⟨"v1", "ConfigMap", fun _ => .error (.missingField "data")⟩

/-- A config map and a namespace. -/
def configuredNamespace : Template :=
  { Template.empty with
    objects := [
      .object [("apiVersion", .string "v1"), ("kind", .string "ConfigMap")],
      .object [("apiVersion", .string "v1"), ("kind", .string "Namespace")]] }

-- The config map would be dropped, but it is decoded before.
example : (configuredNamespace.render noGenerators () strictScheme [.namespaces] []).2 =
    .error (.conversion ⟨"v1", "ConfigMap", .missingField "data"⟩) := by
  rfl

end Rendering

end ResourceTemplate

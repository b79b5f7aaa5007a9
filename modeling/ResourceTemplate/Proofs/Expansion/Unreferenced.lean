import ResourceTemplate.Proofs.Expansion.Reexpansion

/-!
# Parameters that are not referred to

A parameter that is set takes part in an expansion through the references to its name alone.  The
main statement compares two expansions of templates that differ in the value of such a parameter.
When neither the message nor the labels nor the objects refer to its name, both have the same
result, be it a success or problems, and they leave the same message, labels and objects behind.

What is put in the place of a reference is not looked at again.  So the values of other parameters
may well contain references to the name, and nothing is read through them.
-/

namespace ResourceTemplate

/-- A template with other parameters. -/
def Template.withParameters (t : Template) (parameters : List Parameter) : Template :=
  { t with parameters := parameters }

namespace Expansion

open Expression

/-! ## The content of a template -/

section Content

variable {values others : Dict String}

theorem expandObject_congr (labels : Dict String) {object : Json}
    (h : ∀ text ∈ object.texts, AgreeOn values others text) :
    expandObject others labels object = expandObject values labels object := by
  have hsubstitute : substitute others (stripNamespace object) =
      substitute values (stripNamespace object) :=
    substitute_congr fun text htext => h text (texts_stripNamespace htext)
  simp only [expandObject, substituteObject, hsubstitute]

theorem expandObjects_congr (labels : Dict String) (index : Nat) {objects : List Json}
    (h : ∀ object ∈ objects, ∀ text ∈ object.texts, AgreeOn values others text) :
    expandObjects others labels index objects = expandObjects values labels index objects := by
  induction objects generalizing index with
  | nil => rfl
  | cons object rest ih =>
      have hfirst := expandObject_congr labels (h object List.mem_cons_self)
      have hrest := ih (index + 1) fun other hother => h other (List.mem_cons_of_mem object hother)
      simp only [expandObjects, hfirst, hrest]

/-- What is put into a template depends on the values of the names that it refers to. -/
theorem expandContent_congr {t : Template} {parameters : List Parameter}
    (h : ∀ text ∈ t.texts, AgreeOn t.values (t.withParameters parameters).values text) :
    expandContent (t.withParameters parameters) =
      ((expandContent t).1.withParameters parameters, (expandContent t).2) := by
  have hmessage : t.message?.map (substituteText (t.withParameters parameters).values) =
      t.message?.map (substituteText t.values) :=
    Option.map_congr fun message hsome =>
      substituteText_congr (h message (Template.mem_texts_of_message hsome))
  have hlabels : substituteLabels (t.withParameters parameters).values t.labels =
      substituteLabels t.values t.labels := by
    refine substituteLabels_congr fun label hlabel => ?_
    obtain ⟨hkey, hvalue⟩ := Template.mem_texts_of_label hlabel
    exact ⟨h label.1 hkey, h label.2 hvalue⟩
  have hobjects : ∀ labels : Dict String,
      expandObjects (t.withParameters parameters).values labels 0 t.objects =
        expandObjects t.values labels 0 t.objects :=
    fun labels => expandObjects_congr labels 0 fun object hobject text htext =>
      h text (Template.mem_texts_of_object hobject htext)
  simp only [Template.withParameters] at hmessage hlabels hobjects ⊢
  simp only [expandContent, hmessage, hlabels, hobjects]

end Content

/-! ## Two values of one parameter -/

/-- A value is found the same whatever a parameter of another name is. -/
theorem find?_values_past (t : Template) (before after : List Parameter) (p : Parameter)
    {name : String} (h : p.name ≠ name) :
    (t.withParameters (before ++ p :: after)).values.find? name =
      (t.withParameters (before ++ after)).values.find? name := by
  simp only [Template.values, Template.withParameters, List.map_append, List.map_cons]
  exact Dict.find?_ofList_of_ne h _ _ _

/-- Two templates that differ in the value of a parameter, which is set in both, and that do not
refer to its name, are expanded with the same result.  What is left behind differs in that value
alone. -/
theorem expand_ignores_unreferenced {State : Type} (generators : GeneratorSet State) (state : State)
    (t : Template) {p q : Parameter} (hdiffer : q = { p with value? := q.value? })
    (hp : p.hasValue = true) (hq : q.hasValue = true) (before after : List Parameter)
    (hunreferenced : ∀ text ∈ t.texts, ¬RefersTo text p.name) :
    let first := (t.withParameters (before ++ p :: after)).expand generators state
    let second := (t.withParameters (before ++ q :: after)).expand generators state
    second.2 = first.2 ∧ ∃ before' after', before'.length = before.length ∧
      first.1.parameters = before' ++ p :: after' ∧
      second.1 = first.1.withParameters (before' ++ q :: after') := by
  intro first second
  have hname : q.name = p.name := by rw [hdiffer]
  obtain ⟨before', after', problems, last, hlength, hprepared⟩ :=
    prepareParameters_past_set generators 0 state before after
  -- The parameters around it come out the same, so the values differ under its own name at most.
  have hagree : ∀ text ∈ (t.withParameters (before' ++ p :: after')).texts,
      AgreeOn (t.withParameters (before' ++ p :: after')).values
        ((t.withParameters (before' ++ p :: after')).withParameters
          (before' ++ q :: after')).values text := by
    intro text htext name hrefers
    have hne : p.name ≠ name := by
      rintro rfl
      exact hunreferenced text htext hrefers
    have hfirst := find?_values_past t before' after' p hne
    have hsecond := find?_values_past t before' after' q (by rwa [hname])
    exact hsecond.trans hfirst.symm
  have hcontent := expandContent_congr hagree
  have hexpanded : ∀ r : Parameter, r.hasValue = true →
      expandTemplate generators state (t.withParameters (before ++ r :: after)) =
        if problems.isEmpty then expandContent (t.withParameters (before' ++ r :: after'))
        else (t.withParameters (before' ++ r :: after'), problems) := by
    intro r hr
    simp only [expandTemplate, Template.withParameters, hprepared r hr]
  simp only [first, second, Template.expand, hexpanded p hp, hexpanded q hq]
  split
  next =>
    have hsecond : expandContent (t.withParameters (before' ++ q :: after')) = _ := hcontent
    rw [hsecond]
    exact ⟨rfl, before', after', hlength, rfl, rfl⟩
  next => exact ⟨rfl, before', after', hlength, rfl, rfl⟩

/-- A parameter of a name and a value. -/
def setParameter (name value : String) : Parameter :=
  ⟨name, none, none, some value, none, none, true⟩

/-- Parameters whose values refer to a password. -/
def hints : List Parameter :=
  [setParameter "HINT" "$\x7bPASSWORD\x7d", setParameter "DATA" "[\"$\x7bPASSWORD\x7d\"]"]

/-- A template that does not refer to the password.  Its second object cannot be substituted in, and
the problem tells a value that refers to it. -/
def passwordAside : Template :=
  { Template.empty with
    message? := some "see $\x7bHINT\x7d"
    labels := [("hint", "$\x7b\x7bHINT\x7d\x7d")]
    objects := [
      .object [("data", .string "$\x7b\x7bDATA\x7d\x7d"), ("kind", .string "Secret")],
      .object [("data", .string "$\x7b\x7bHINT\x7d\x7d"), ("kind", .string "Secret")]] }

theorem expand_ignores_unreferenced_password :
    let first := (passwordAside.withParameters (hints ++ [setParameter "PASSWORD" "one"])).expand
      noGenerators ()
    let second :=
      (passwordAside.withParameters (hints ++ [setParameter "PASSWORD" "another"])).expand
      noGenerators ()
    (∀ text ∈ passwordAside.texts, ¬RefersTo text "PASSWORD") ∧
      (∃ problems, first.2 = .error problems ∧ second.2 = .error problems ∧
        problems.map (·.report.field) = ["item[1].parameters"]) ∧
      second.1.message? = some "see $\x7bPASSWORD\x7d" := by
  intro first second
  have hunreferenced : ∀ text ∈ passwordAside.texts, ¬RefersTo text "PASSWORD" := by
    decide +kernel
  obtain ⟨hresult, before, after, -, -, hsecond⟩ :=
    expand_ignores_unreferenced noGenerators () passwordAside
      (p := setParameter "PASSWORD" "one") (q := setParameter "PASSWORD" "another")
      rfl rfl rfl hints [] hunreferenced
  have hmessage : first.1.message? = some "see $\x7bPASSWORD\x7d" := by decide +kernel
  have htold : (expandTemplate noGenerators () (passwordAside.withParameters
      (hints ++ [setParameter "PASSWORD" "one"]))).2.map (·.report.field) =
        ["item[1].parameters"] := by
    decide +kernel
  refine ⟨hunreferenced, ?_, ?_⟩
  · cases hfirst : first.2 with
    | ok done =>
        rw [(expand_result noGenerators () _).1.mp hfirst] at htold
        exact absurd htold (by simp)
    | error problems =>
        obtain ⟨-, rfl⟩ := (expand_result noGenerators () _).2 problems hfirst
        exact ⟨_, rfl, hresult.trans hfirst, htold⟩
  · rw [show second.1 = _ from hsecond]
    exact hmessage

end Expansion

end ResourceTemplate

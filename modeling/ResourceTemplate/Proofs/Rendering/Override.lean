import ResourceTemplate.Proofs.Expansion.Filling
import ResourceTemplate.Proofs.Expansion.Substitution
import ResourceTemplate.Proofs.Rendering.Session

/-!
# What an explicit value is put for

An explicit value goes to the first parameter of its name, and what is put for a reference is the
value of the last one.  For a name that is declared once they are the same parameter: the explicit
value survives the expansion, since its generator is forgotten, and it is put for every reference to
the name in the message, the labels and the objects.

For a name that is declared twice this fails, and what was generated for the second parameter is
put.
-/

namespace ResourceTemplate.Rendering

open Expression Expansion

variable {State : Type} {generators : GeneratorSet State} {state : State} {scheme : Scheme}
  {filters : List Filter} {given : Dict String} {t : Template} {rendered : List RenderedObject}

/-- A rendering succeeds only when its expansion does. -/
theorem expand_of_render (h : (t.render generators state scheme filters given).2 = .ok rendered) :
    ((t.overrideAll given).expand generators state).2 = .ok () := by
  unfold Template.render at h
  dsimp only at h
  split at h
  next => exact absurd h (by simp)
  next hexpanded => exact hexpanded

/-- A rendering fills the template that it is given; the explicit values concern the parameters
only. -/
theorem filled_of_render (h : (t.render generators state scheme filters given).2 = .ok rendered) :
    Filled t (t.render generators state scheme filters given).1 := by
  have hfilled := filled_of_expand generators (expand_of_render h)
  rw [← Session.render_template generators state scheme filters given t] at hfilled
  rw [Template.overrideAll_eq] at hfilled
  exact ⟨hfilled.message, hfilled.labels, hfilled.objects⟩

/-- After a rendering, successful or not, an explicit value is the value of a name that is declared
once. -/
theorem find?_values_render {name value : String} (hgiven : lastGiven given name = some value)
    (honce : t.names.count name = 1) :
    (t.render generators state scheme filters given).1.values.find? name = some value := by
  have hcarried := Session.Carried.render generators state scheme filters given t
  set last := (t.render generators state scheme filters given).1
  have hvalue : ∀ q ∈ last.parameters, q.name = name → q.currentValue = value := by
    intro q hq hname
    obtain ⟨i, hi⟩ := List.getElem?_of_mem hq
    have hlt : i < t.parameters.length := by
      rw [← hcarried.length]
      exact (List.getElem?_eq_some_iff.mp hi).1
    have hcourse := hcarried.course (List.getElem?_eq_getElem hlt) hi
    have hplace : t.names[i]? = some name := by
      rw [← hcarried.names]
      simp [Template.names, hi, hname]
    rw [givenAt_of_count_eq_one honce hplace, hgiven] at hcourse
    simp [Parameter.currentValue, hcourse.value_of_given]
  have hdeclared : name ∈ last.names := by
    rw [hcarried.names]
    exact List.count_pos_iff.mp (by omega)
  obtain ⟨q, hq, hname⟩ := List.mem_map.mp hdeclared
  refine Dict.find?_ofList_of_unique ?_ ?_
  · exact List.mem_map.mpr ⟨q, hq, by rw [hname, hvalue q hq hname]⟩
  · intro other hother
    obtain ⟨p, hp, hentry⟩ := List.mem_map.mp hother
    obtain ⟨hpname, rfl⟩ := Prod.mk.inj hentry
    exact hvalue p hp hpname

/-- A value is put for every reference to a name.  The text around the references is resolved by
itself; what is put is not looked at again. -/
structure PutFor (values : Dict String) (name value : String) : Prop where
  /-- In messages, labels and keys. -/
  text : ∀ first second rest,
    substituteText values ((reference name).intercalate (first :: second :: rest)) =
      value.intercalate ((first :: second :: rest).map (resolveText values))
  /-- In the texts of objects. -/
  string : ∀ first second rest,
    substituteString values ((reference name).intercalate (first :: second :: rest)) =
      .ok (.string (value.intercalate ((first :: second :: rest).map (resolveText values))))

theorem putFor_of_find? {values : Dict String} {name value : String} (hname : IsName name.toList)
    (hvalue : values.find? name = some value) : PutFor values name value where
  text := by
    intro first second rest
    simp only [substituteText, evaluate_intercalate hname hvalue]
  string := by
    intro first second rest
    simp only [substituteString, evaluate_intercalate hname hvalue]

/-- Values are put in the texts of a template: its message, its labels and, at any depth, the texts
and keys of its objects. -/
structure ValuesPut (values : Dict String) (t last : Template) : Prop where
  message : last.message? = t.message?.map (substituteText values)
  labels : last.labels = Dict.ofList (t.labels.map fun label =>
    (substituteText values label.1, substituteText values label.2))
  objects : List.Forall₂ (fun before after => ∃ done,
    Substituted values (stripNamespace before) done ∧ mergeLabels last.labels done = .ok after)
    t.objects last.objects

theorem valuesPut_of_filled {t last : Template} (h : Filled t last) :
    ValuesPut last.values t last where
  message := h.message
  labels := h.labels
  objects := h.objects.imp fun _ _ hobject => by
    obtain ⟨done, hsubstitute, hmerge⟩ := hobject.content
    exact ⟨done, substituted_of_substitute hsubstitute, hmerge⟩

/-- The explicit value of a name that is declared once is put for every reference to the name, in
the message, the labels and the objects, whatever the template or a generator would have put
there. -/
theorem explicit_value_is_put {name value : String}
    (hok : (t.render generators state scheme filters given).2 = .ok rendered)
    (hgiven : lastGiven given name = some value) (honce : t.names.count name = 1)
    (hname : IsName name.toList) :
    let last := (t.render generators state scheme filters given).1
    last.values.find? name = some value ∧ PutFor last.values name value ∧
      ValuesPut last.values t last := by
  intro last
  have hvalue : last.values.find? name = some value := find?_values_render hgiven honce
  have hfilled : Filled t last := filled_of_render hok
  exact ⟨hvalue, putFor_of_find? hname hvalue, valuesPut_of_filled hfilled⟩

/-- A generator that always gives the same value. -/
def fixedGenerator : GeneratorSet Unit := ⟨fun _ => some fun _ _ => (.ok "s3cr3t", ())⟩

/-- A template that tells a password, the parameters being given. -/
def passwordTemplate (parameters : List Parameter) : Template :=
  { Template.empty with message? := some "password: $\x7bN\x7d", parameters := parameters }

/-- A parameter without a value, for which one may be generated. -/
def passwordParameter (generate? : Option String) : Parameter :=
  ⟨"N", none, none, none, generate?, some "[a-z]\x7b8\x7d", false⟩

theorem explicit_value_is_put_password :
    let t := passwordTemplate [passwordParameter (some "expression")]
    let rendering := t.render fixedGenerator () ⟨[]⟩ [] [("N", "chosen")]
    rendering.2 = .ok [] ∧ rendering.1.message? = some "password: chosen" := by
  intro t rendering
  have hok : rendering.2 = .ok [] := rfl
  have hgiven : lastGiven [("N", "chosen")] "N" = some "chosen" := by decide
  have honce : t.names.count "N" = 1 := by decide
  have hname : IsName "N".toList := by decide
  obtain ⟨-, hput, hplaced⟩ := explicit_value_is_put hok hgiven honce hname
  have hmessage : "password: $\x7bN\x7d" = (reference "N").intercalate ["password: ", ""] := by
    decide +kernel
  have htext := hput.text "password: " "" []
  rw [← hmessage] at htext
  refine ⟨hok, hplaced.message.trans (congrArg some (htext.trans ?_))⟩
  decide +kernel

/-- Of two parameters of one name the second one has its value generated and put, although the name
was given an explicit value. -/
theorem generated_value_is_put :
    let t := passwordTemplate [passwordParameter none, passwordParameter (some "expression")]
    let rendering := t.render fixedGenerator () ⟨[]⟩ [] [("N", "chosen")]
    rendering.2 = .ok [] ∧ t.names = ["N", "N"] ∧ t.message? = some ("password: " ++ reference "N") ∧
      rendering.1.message? = some "password: s3cr3t" := by
  refine ⟨rfl, by decide, by decide, ?_⟩
  decide +kernel

end ResourceTemplate.Rendering

import ResourceTemplate.Proofs.Manifest.Conversion

/-!
# What registering kinds changes

A scheme extends another when it knows every kind that the other knows, as the same type.  Then it
decodes less: whatever it decodes, the other decodes too, into manifests that carry the same
resources and differ only in being typed.  When it alone fails, it does so because of a type that
the other does not know, at the first value that such a type rejects.
-/

namespace ResourceTemplate.Scheme

/-- Every kind that one scheme knows, the other knows as the same type. -/
def ExtendedBy (scheme wider : Scheme) : Prop :=
  ∀ apiVersion kind type, scheme.type? apiVersion kind = some type →
    wider.type? apiVersion kind = some type

/-- A scheme is extended by registering a kind that it does not know. -/
theorem extendedBy_register (scheme : Scheme) {type : RegisteredType}
    (h : scheme.isRegistered type.apiVersion type.kind = false) :
    scheme.ExtendedBy (scheme.register type) := by
  intro apiVersion kind found hfound
  have hother : ¬(type.apiVersion = apiVersion ∧ type.kind = kind) := by
    rintro ⟨rfl, rfl⟩
    simp [isRegistered, hfound] at h
  unfold type? register
  rw [List.find?_cons_of_neg (by simpa using hother)]
  exact hfound

theorem mem_types_foldl_register {types : List RegisteredType} {scheme : Scheme}
    {type : RegisteredType} :
    type ∈ (types.foldl register scheme).types ↔ type ∈ types ∨ type ∈ scheme.types := by
  induction types generalizing scheme with
  | nil => simp
  | cons first rest ih =>
      rw [List.foldl_cons, ih, List.mem_cons, register, List.mem_cons]
      tauto

/-- What is known by name is known under one kind, and is checked as the record of that kind. -/
theorem eq_of_type?_ofNames {names : List String} {apiVersion kind : String} {type : RegisteredType}
    (h : (ofNames names).type? apiVersion kind = some type) :
    type = ⟨apiVersion, kind, RegisteredType.checkRecord kind⟩ := by
  obtain ⟨rfl, rfl⟩ : type.apiVersion = apiVersion ∧ type.kind = kind := by
    simpa using List.find?_some h
  have hmem := mem_types_foldl_register.mp (List.mem_of_find?_eq_some h)
  rcases hmem with hmem | hmem
  · obtain ⟨name, -, hname⟩ := List.mem_filterMap.mp hmem
    obtain ⟨apiVersion, -, rfl⟩ := Option.map_eq_some_iff.mp hname
    rfl
  · exact absurd hmem List.not_mem_nil

/-- Among the types known by name, knowing the kinds is knowing the types. -/
theorem extendedBy_ofNames_iff {names wider : List String} :
    (ofNames names).ExtendedBy (ofNames wider) ↔
      ∀ apiVersion kind, (ofNames names).isRegistered apiVersion kind = true →
        (ofNames wider).isRegistered apiVersion kind = true := by
  constructor
  · intro h apiVersion kind hknown
    obtain ⟨type, htype⟩ := Option.isSome_iff_exists.mp hknown
    exact Option.isSome_iff_exists.mpr ⟨type, h _ _ _ htype⟩
  · intro h apiVersion kind type htype
    obtain ⟨found, hfound⟩ := Option.isSome_iff_exists.mp
      (h apiVersion kind (Option.isSome_iff_exists.mpr ⟨type, htype⟩))
    rw [hfound, eq_of_type?_ofNames htype, eq_of_type?_ofNames hfound]

/-- A manifest is typed when the kind that its value states is registered, and only then. -/
def TypedAsRegistered (scheme : Scheme) (o : RenderedObject) : Prop :=
  ∀ m, o.manifest? = some m → ∃ types, statedType? o.raw = some types ∧
    m.typed = scheme.isRegistered types.apiVersion types.kind

/-- Two schemes decode a value into the same resource, or both into none. -/
structure SentAlike (scheme wider : Scheme) (o o' : RenderedObject) : Prop where
  raw : o.raw = o'.raw
  resource : o.manifest?.map Manifest.resource = o'.manifest?.map Manifest.resource
  typed : scheme.TypedAsRegistered o
  typed' : wider.TypedAsRegistered o'

/-- A value is rejected by a type that only the wider of two schemes knows, and no value before it
is rejected by its type. -/
def NewlyRejected (scheme wider : Scheme) (values : List Json) (e : ConversionError) : Prop :=
  ∃ before value after, values = before ++ value :: after ∧
    statedType? value = some ⟨e.apiVersion, e.kind⟩ ∧
    scheme.isRegistered e.apiVersion e.kind = false ∧
    wider.Rejects ⟨e.apiVersion, e.kind⟩ value e.cause ∧
    ∀ earlier ∈ before, ∀ types, statedType? earlier = some types → wider.Admits types earlier

section

variable {scheme wider : Scheme}

theorem DecodesTo.typed {value : Json} {o : RenderedObject} (h : scheme.DecodesTo value o) :
    scheme.TypedAsRegistered o := by
  intro m hm
  have hdecode := h.manifest
  rw [hm] at hdecode
  obtain ⟨types, hstated, hm⟩ := decode_eq_some_iff.mp hdecode
  obtain ⟨-, -, htyped⟩ := decodeStated_eq_ok_iff.mp hm
  exact ⟨types, h.raw ▸ hstated, htyped⟩

theorem ExtendedBy.admits (h : scheme.ExtendedBy wider) {types : TypeMeta} {raw : Json}
    (hwider : wider.Admits types raw) : scheme.Admits types raw :=
  fun type htype => hwider type (h _ _ type htype)

/-- What the wider scheme decodes, the other decodes too, into the same resource. -/
theorem ExtendedBy.decodesTo (h : scheme.ExtendedBy wider) {value : Json} {o' : RenderedObject}
    (hwider : wider.DecodesTo value o') :
    ∃ o, scheme.DecodesTo value o ∧ SentAlike scheme wider o o' := by
  have hdecode := hwider.manifest
  cases hmanifest : o'.manifest? with
  | none =>
      rw [hmanifest, decode_eq_none_iff] at hdecode
      have hdecodes : scheme.DecodesTo value ⟨value, none⟩ := ⟨rfl, decode_eq_none_iff.mpr hdecode⟩
      exact ⟨_, hdecodes, hwider.raw.symm, by rw [hmanifest], hdecodes.typed, hwider.typed⟩
  | some m' =>
      rw [hmanifest] at hdecode
      obtain ⟨types, hstated, hm'⟩ := decode_eq_some_iff.mp hdecode
      obtain ⟨hadmits, hresource, -⟩ := decodeStated_eq_ok_iff.mp hm'
      have hm : scheme.decodeStated types value =
          .ok ⟨scheme.isRegistered types.apiVersion types.kind, m'.resource⟩ :=
        decodeStated_eq_ok_iff.mpr ⟨h.admits hadmits, hresource, rfl⟩
      have hdecodes : scheme.DecodesTo value ⟨value, some _⟩ :=
        ⟨rfl, decode_eq_some_iff.mpr ⟨types, hstated, hm⟩⟩
      exact ⟨_, hdecodes, hwider.raw.symm, by rw [hmanifest]; rfl, hdecodes.typed, hwider.typed⟩

theorem ExtendedBy.convert (h : scheme.ExtendedBy wider) {values : List Json}
    {rendered' : List RenderedObject} (hwider : List.Forall₂ wider.DecodesTo values rendered') :
    ∃ rendered, List.Forall₂ scheme.DecodesTo values rendered ∧
      List.Forall₂ (SentAlike scheme wider) rendered rendered' := by
  induction hwider with
  | nil => exact ⟨[], .nil, .nil⟩
  | cons hfirst _ ih =>
      obtain ⟨o, hdecodes, halike⟩ := h.decodesTo hfirst
      obtain ⟨others, hothers, hrest⟩ := ih
      exact ⟨o :: others, .cons hdecodes hothers, .cons halike hrest⟩

/-- A value that the wider scheme cannot decode and the other can is rejected by a type that only
the wider one knows. -/
theorem ExtendedBy.rejects (h : scheme.ExtendedBy wider) {value : Json} {manifest? : Option Manifest}
    {e : ConversionError} (hok : scheme.decode value = .ok manifest?)
    (herror : wider.decode value = .error e) :
    statedType? value = some ⟨e.apiVersion, e.kind⟩ ∧
      scheme.isRegistered e.apiVersion e.kind = false ∧
      wider.Rejects ⟨e.apiVersion, e.kind⟩ value e.cause := by
  obtain ⟨hstated, hfailed⟩ := decode_eq_error_iff.mp herror
  cases manifest? with
  | none => exact absurd (hstated.symm.trans (decode_eq_none_iff.mp hok)) (by simp)
  | some m =>
      obtain ⟨types, htypes, hm⟩ := decode_eq_some_iff.mp hok
      obtain rfl := Option.some.inj (hstated.symm.trans htypes)
      obtain ⟨hadmits, hresource, -⟩ := decodeStated_eq_ok_iff.mp hm
      rcases decodeStated_eq_error_iff.mp hfailed with hrejects | ⟨-, hunread⟩
      · refine ⟨hstated, ?_, hrejects⟩
        -- A type that both know would reject what it accepts.
        obtain ⟨type, htype, hcheck⟩ := hrejects
        refine Option.isSome_eq_false_iff.mpr (Option.isNone_iff_eq_none.mpr ?_)
        refine Option.eq_none_iff_forall_ne_some.mpr fun known hknown => ?_
        obtain rfl := Option.some.inj (htype.symm.trans (h _ _ known hknown))
        exact absurd ((hadmits _ hknown).symm.trans hcheck) (by simp)
      · exact absurd (hresource.symm.trans hunread) (by simp)

/-- When only the wider scheme fails, a type that only it knows is why. -/
theorem ExtendedBy.newlyRejected (h : scheme.ExtendedBy wider) {values : List Json}
    {rendered : List RenderedObject} {e : ConversionError}
    (hok : List.Forall₂ scheme.DecodesTo values rendered) (herror : wider.FailsFirst values e) :
    NewlyRejected scheme wider values e := by
  obtain ⟨before, value, after, rfl, hbefore, hvalue⟩ := herror
  obtain ⟨manifest?, hdecode⟩ := decode_of_decodesTo hok (by simp : value ∈ _)
  obtain ⟨hstated, hunknown, hrejects⟩ := h.rejects hdecode hvalue
  refine ⟨before, value, after, rfl, hstated, hunknown, hrejects, ?_⟩
  intro earlier hearlier types htypes
  obtain ⟨found?, hfound⟩ := hbefore earlier hearlier
  cases found? with
  | none => exact absurd (htypes.symm.trans (decode_eq_none_iff.mp hfound)) (by simp)
  | some m =>
      obtain ⟨types', htypes', hm⟩ := decode_eq_some_iff.mp hfound
      obtain rfl := Option.some.inj (htypes.symm.trans htypes')
      exact (decodeStated_eq_ok_iff.mp hm).1

/-- Registering kinds changes no resource.  What the wider scheme converts, the other converts into
the same resources at the same places; what only the other converts is rejected by a type that it
does not know.  A value that does not state what it is has no manifest under any scheme and is never
at fault. -/
theorem registration_only_rejects (h : scheme.ExtendedBy wider) (values : List Json) :
    (∀ rendered', wider.convert values = .ok rendered' →
      ∃ rendered, scheme.convert values = .ok rendered ∧
        List.Forall₂ (SentAlike scheme wider) rendered rendered') ∧
    (∀ rendered e, scheme.convert values = .ok rendered → wider.convert values = .error e →
      NewlyRejected scheme wider values e) ∧
    ∀ (known : Scheme) (raw : Json), known.decode raw = .ok none ↔ Unstated raw := by
  refine ⟨fun rendered' hwider => ?_, fun rendered e hok herror => ?_, fun known raw => ?_⟩
  · obtain ⟨rendered, hdecodes, halike⟩ := h.convert (convert_eq_ok_iff.mp hwider)
    exact ⟨rendered, convert_eq_ok_iff.mpr hdecodes, halike⟩
  · exact h.newlyRejected (convert_eq_ok_iff.mp hok) (convert_eq_error_iff.mp herror)
  · exact decode_eq_none_iff.trans statedType?_eq_none_iff

end

/-- A scheme that checks config maps. -/
def configMapsOnly : Scheme := ofNames ["ConfigMap"]

/-- A scheme that checks config maps and secrets. -/
def withSecrets : Scheme :=
  configMapsOnly.register ⟨"v1", "Secret", RegisteredType.checkRecord "Secret"⟩

/-- A text, a config map with a member that its type does not know, and a secret with data that are
a text. -/
def textConfigMapSecret : List Json :=
  [.string "Secret",
    .object [("apiVersion", .string "v1"), ("kind", .string "ConfigMap"), ("shard", .string "east")],
    .object [("apiVersion", .string "v1"), ("data", .string "a"), ("kind", .string "Secret")]]

theorem registration_only_rejects_secret :
    configMapsOnly.ExtendedBy withSecrets ∧
      (∃ rendered rendered', configMapsOnly.convert (textConfigMapSecret.take 2) = .ok rendered ∧
        withSecrets.convert (textConfigMapSecret.take 2) = .ok rendered' ∧
        List.Forall₂ (SentAlike configMapsOnly withSecrets) rendered rendered') ∧
      ∃ rendered e, configMapsOnly.convert textConfigMapSecret = .ok rendered ∧
        withSecrets.convert textConfigMapSecret = .error e ∧ e.kind = "Secret" ∧
        NewlyRejected configMapsOnly withSecrets textConfigMapSecret e := by
  have hextended : configMapsOnly.ExtendedBy withSecrets :=
    extendedBy_register _ (by decide +kernel)
  refine ⟨hextended, ?_, ?_⟩
  · obtain ⟨rendered', hwider⟩ :
        ∃ rendered', withSecrets.convert (textConfigMapSecret.take 2) = .ok rendered' := ⟨_, rfl⟩
    obtain ⟨rendered, hok, halike⟩ := (registration_only_rejects hextended _).1 _ hwider
    exact ⟨rendered, rendered', hok, hwider, halike⟩
  · obtain ⟨rendered, hok⟩ :
        ∃ rendered, configMapsOnly.convert textConfigMapSecret = .ok rendered := ⟨_, rfl⟩
    obtain ⟨e, herror, hkind⟩ :
        ∃ e, withSecrets.convert textConfigMapSecret = .error e ∧ e.kind = "Secret" := ⟨_, rfl, rfl⟩
    exact ⟨rendered, e, hok, herror, hkind,
      (registration_only_rejects hextended _).2.1 _ _ hok herror⟩

end ResourceTemplate.Scheme

import Mathlib.Data.List.Forall2
import ResourceTemplate.Manifest.Scheme

/-!
# Conversion of values

A value that states what it is has a manifest when its registered type, if it has one, accepts it
and the resource in it can be read.  A value that does not state what it is has none and is never at
fault.

A list of values is converted as a whole or not at all.  It is converted when each of its values can
be decoded, and then each stands in its place with its manifest.  Otherwise the error is that of the
first value that cannot be decoded.
-/

namespace ResourceTemplate

namespace Json

/-- A member of a value is a text that is not empty. -/
def States (raw : Json) (key text : String) : Prop :=
  raw.get? key = some (.string text) ∧ text ≠ ""

theorem getString?_eq_some_iff {value : Json} {key text : String} :
    value.getString? key = some text ↔ value.get? key = some (.string text) := by
  unfold getString?
  cases value.get? key with
  | none => simp
  | some found => cases found <;> simp [asString?]

theorem states_iff {raw : Json} {key text : String} :
    (raw.getString? key).filter (· ≠ "") = some text ↔ raw.States key text := by
  rw [Option.filter_eq_some_iff, getString?_eq_some_iff, decide_eq_true_iff]
  rfl

end Json

namespace Scheme

/-! ## One value -/

theorem statedType?_eq_some_iff {raw : Json} {types : TypeMeta} :
    statedType? raw = some types ↔
      raw.States "apiVersion" types.apiVersion ∧ raw.States "kind" types.kind := by
  obtain ⟨apiVersion, kind⟩ := types
  rw [← Json.states_iff, ← Json.states_iff]
  unfold statedType?
  cases (raw.getString? "apiVersion").filter (· ≠ "") with
  | none => simp
  | some first => cases (raw.getString? "kind").filter (· ≠ "") <;> simp

/-- The value does not state what it is: its API version or its kind is missing, no text or empty.
-/
def Unstated (raw : Json) : Prop :=
  (∀ text, ¬raw.States "apiVersion" text) ∨ ∀ text, ¬raw.States "kind" text

theorem statedType?_eq_none_iff {raw : Json} : statedType? raw = none ↔ Unstated raw := by
  unfold Unstated statedType?
  simp only [← Json.states_iff, ← Option.eq_none_iff_forall_ne_some]
  cases (raw.getString? "apiVersion").filter (· ≠ "") with
  | none => simp
  | some first => cases (raw.getString? "kind").filter (· ≠ "") <;> simp

/-- The type that is registered for a stated one, if any, accepts a value. -/
def Admits (scheme : Scheme) (types : TypeMeta) (raw : Json) : Prop :=
  ∀ type, scheme.type? types.apiVersion types.kind = some type → type.check raw = .ok ()

/-- The type that is registered for a stated one rejects a value. -/
def Rejects (scheme : Scheme) (types : TypeMeta) (raw : Json) (cause : Document.Cause) : Prop :=
  ∃ type, scheme.type? types.apiVersion types.kind = some type ∧ type.check raw = .error cause

theorem decodeStated_eq_ok_iff {scheme : Scheme} {types : TypeMeta} {raw : Json} {m : Manifest} :
    scheme.decodeStated types raw = .ok m ↔
      scheme.Admits types raw ∧ resourceOf raw = .ok m.resource ∧
        m.typed = scheme.isRegistered types.apiVersion types.kind := by
  obtain ⟨typed, resource⟩ := m
  unfold decodeStated Admits isRegistered
  cases scheme.type? types.apiVersion types.kind with
  | none => cases resourceOf raw <;> simp [Except.map, and_comm, eq_comm]
  | some type =>
      cases hcheck : type.check raw with
      | error cause => simp [hcheck]
      | ok done => cases resourceOf raw <;> simp [Except.map, and_comm, eq_comm, hcheck]

theorem decodeStated_eq_error_iff {scheme : Scheme} {types : TypeMeta} {raw : Json}
    {cause : Document.Cause} :
    scheme.decodeStated types raw = .error cause ↔
      scheme.Rejects types raw cause ∨
        scheme.Admits types raw ∧ resourceOf raw = .error cause := by
  unfold decodeStated Admits Rejects
  cases scheme.type? types.apiVersion types.kind with
  | none => cases resourceOf raw <;> simp [Except.map]
  | some type =>
      cases hcheck : type.check raw with
      | error found => simp [hcheck]
      | ok done => cases resourceOf raw <;> simp [Except.map, hcheck]

theorem decode_eq_none_iff {scheme : Scheme} {raw : Json} :
    scheme.decode raw = .ok none ↔ statedType? raw = none := by
  unfold decode
  cases statedType? raw with
  | none => simp
  | some types =>
      dsimp only
      cases scheme.decodeStated types raw <;> simp

theorem decode_eq_some_iff {scheme : Scheme} {raw : Json} {m : Manifest} :
    scheme.decode raw = .ok (some m) ↔
      ∃ types, statedType? raw = some types ∧ scheme.decodeStated types raw = .ok m := by
  unfold decode
  cases statedType? raw with
  | none => simp
  | some types =>
      simp only [Option.some.injEq, exists_eq_left']
      cases scheme.decodeStated types raw <;> simp

theorem decode_eq_error_iff {scheme : Scheme} {raw : Json} {e : ConversionError} :
    scheme.decode raw = .error e ↔
      statedType? raw = some ⟨e.apiVersion, e.kind⟩ ∧
        scheme.decodeStated ⟨e.apiVersion, e.kind⟩ raw = .error e.cause := by
  obtain ⟨apiVersion, kind, cause⟩ := e
  unfold decode
  cases statedType? raw with
  | none => simp
  | some types =>
      dsimp only
      constructor
      · intro h
        split at h
        next => cases h
        next found hfound =>
          cases h
          exact ⟨rfl, hfound⟩
      · rintro ⟨htypes, herror⟩
        obtain rfl := Option.some.inj htypes
        rw [herror]

theorem exists_of_isSome {result : Except ConversionError (Option Manifest)}
    (h : (result.toOption.bind id).isSome = true) : ∃ m, result = .ok (some m) := by
  match result with
  | .ok (some m) => exact ⟨m, rfl⟩
  | .ok none | .error _ => cases h

/-! ## Lists of values -/

/-- A rendered object holds a value and the manifest decoded from it. -/
structure DecodesTo (scheme : Scheme) (value : Json) (o : RenderedObject) : Prop where
  raw : o.raw = value
  manifest : scheme.decode value = .ok o.manifest?

/-- The first value that cannot be decoded fails with a cause. -/
def FailsFirst (scheme : Scheme) (values : List Json) (cause : ConversionError) : Prop :=
  ∃ before value after, values = before ++ value :: after ∧
    (∀ earlier ∈ before, ∃ manifest?, scheme.decode earlier = .ok manifest?) ∧
    scheme.decode value = .error cause

variable {scheme : Scheme}

theorem convert_cons_of_error {value : Json} {cause : ConversionError}
    (h : scheme.decode value = .error cause) (rest : List Json) :
    scheme.convert (value :: rest) = .error cause := by
  simp only [convert, h]

theorem convert_cons_of_ok {value : Json} {manifest? : Option Manifest}
    (h : scheme.decode value = .ok manifest?) (rest : List Json) :
    scheme.convert (value :: rest) = (scheme.convert rest).map (⟨value, manifest?⟩ :: ·) := by
  simp only [convert, h]

theorem convert_eq_ok_iff {values : List Json} {rendered : List RenderedObject} :
    scheme.convert values = .ok rendered ↔ List.Forall₂ scheme.DecodesTo values rendered := by
  induction values generalizing rendered with
  | nil => rw [convert, Except.ok.injEq, List.forall₂_nil_left_iff, eq_comm]
  | cons value rest ih =>
      rw [List.forall₂_cons_left_iff]
      cases hdecode : scheme.decode value with
      | error cause =>
          rw [convert_cons_of_error hdecode]
          refine ⟨fun h => absurd h (by simp), ?_⟩
          rintro ⟨o, _, hfirst, -⟩
          exact absurd (hdecode.symm.trans hfirst.manifest) (by simp)
      | ok manifest? =>
          rw [convert_cons_of_ok hdecode]
          constructor
          · intro h
            cases hrest : scheme.convert rest with
            | error cause => simp [hrest, Except.map] at h
            | ok others =>
                simp only [hrest, Except.map, Except.ok.injEq] at h
                exact ⟨⟨value, manifest?⟩, others, ⟨rfl, hdecode⟩, ih.mp hrest, h.symm⟩
          · rintro ⟨⟨raw, found?⟩, others, ⟨hraw, hmanifest⟩, hothers, rfl⟩
            obtain rfl : raw = value := hraw
            obtain rfl := Except.ok.inj (hdecode.symm.trans hmanifest)
            rw [ih.mpr hothers]
            rfl

theorem not_failsFirst_nil {cause : ConversionError} : ¬scheme.FailsFirst [] cause := by
  rintro ⟨before, value, after, hsplit, -⟩
  exact absurd hsplit (by simp)

theorem failsFirst_cons_of_error {value : Json} {first cause : ConversionError}
    (h : scheme.decode value = .error first) (rest : List Json) :
    scheme.FailsFirst (value :: rest) cause ↔ first = cause := by
  constructor
  · rintro ⟨before, other, after, hsplit, hbefore, hother⟩
    cases before with
    | nil =>
        obtain ⟨rfl, -⟩ := List.cons.inj hsplit
        exact Except.error.inj (h.symm.trans hother)
    | cons earlier before =>
        -- The value that fails would be one of those that are decoded.
        obtain ⟨rfl, -⟩ := List.cons.inj hsplit
        obtain ⟨manifest?, hearlier⟩ := hbefore value List.mem_cons_self
        exact absurd (h.symm.trans hearlier) (by simp)
  · rintro rfl
    exact ⟨[], value, rest, rfl, by simp, h⟩

theorem failsFirst_cons_of_ok {value : Json} {manifest? : Option Manifest}
    (h : scheme.decode value = .ok manifest?) (rest : List Json) {cause : ConversionError} :
    scheme.FailsFirst (value :: rest) cause ↔ scheme.FailsFirst rest cause := by
  constructor
  · rintro ⟨before, other, after, hsplit, hbefore, hother⟩
    cases before with
    | nil =>
        obtain ⟨rfl, -⟩ := List.cons.inj hsplit
        exact absurd (h.symm.trans hother) (by simp)
    | cons earlier before =>
        obtain ⟨-, rfl⟩ := List.cons.inj hsplit
        exact ⟨before, other, after, rfl,
          fun o ho => hbefore o (List.mem_cons_of_mem _ ho), hother⟩
  · rintro ⟨before, other, after, rfl, hbefore, hother⟩
    refine ⟨value :: before, other, after, rfl, fun earlier hearlier => ?_, hother⟩
    rcases List.mem_cons.mp hearlier with rfl | hearlier
    · exact ⟨manifest?, h⟩
    · exact hbefore earlier hearlier

theorem convert_eq_error_iff {values : List Json} {cause : ConversionError} :
    scheme.convert values = .error cause ↔ scheme.FailsFirst values cause := by
  induction values with
  | nil => exact ⟨fun h => absurd h (by simp [convert]), fun h => absurd h not_failsFirst_nil⟩
  | cons value rest ih =>
      cases hdecode : scheme.decode value with
      | error first =>
          rw [convert_cons_of_error hdecode, failsFirst_cons_of_error hdecode, Except.error.injEq]
      | ok manifest? =>
          rw [convert_cons_of_ok hdecode, failsFirst_cons_of_ok hdecode, ← ih]
          cases scheme.convert rest <;> simp [Except.map]

theorem decode_of_decodesTo {values : List Json} {rendered : List RenderedObject}
    (h : List.Forall₂ scheme.DecodesTo values rendered) {value : Json} (hvalue : value ∈ values) :
    ∃ manifest?, scheme.decode value = .ok manifest? := by
  induction h with
  | nil => exact absurd hvalue List.not_mem_nil
  | cons hfirst _ ih =>
      rcases List.mem_cons.mp hvalue with rfl | hvalue
      · exact ⟨_, hfirst.manifest⟩
      · exact ih hvalue

/-- What is converted holds the values as they were, in their order. -/
theorem map_raw_of_decodesTo {values : List Json} {rendered : List RenderedObject}
    (h : List.Forall₂ scheme.DecodesTo values rendered) : rendered.map (·.raw) = values := by
  induction h with
  | nil => rfl
  | cons hfirst _ ih => rw [List.map_cons, hfirst.raw, ih]

end Scheme

end ResourceTemplate

import ResourceTemplate.Proofs.Document.Refinement
import ResourceTemplate.Proofs.Notation.Written

/-!
# The two notations of a shape compared

What JSON makes of a shape refines to what YAML makes of it.  YAML allows more: there a word is also
a text, and a name of an optional part may stand for nothing.
-/

namespace ResourceTemplate.Notation

open Document Yaml

/-! ## Plain scalars that stand for numbers -/

section Numeral

variable {text : String} {number : Number}

theorem ofPlain_ne_of_value (h : (Reading.ofPlain text).value text = .ok (.number number)) :
    text ≠ "" ∧ Reading.isNull text = false ∧ Reading.ofPlain text ≠ .text := by
  have hnull : Reading.ofPlain text ≠ .null := by
    intro heq
    simp [heq, Reading.value] at h
  have hnothing : ¬ (text = "" ∨ Reading.isNull text = true) := by
    intro hempty
    exact hnull (by rw [Reading.ofPlain, if_pos hempty])
  refine ⟨fun heq => hnothing (.inl heq), ?_, ?_⟩
  · cases hword : Reading.isNull text with
    | false => rfl
    | true => exact absurd (.inr hword) hnothing
  · intro heq
    simp [heq, Reading.value] at h

theorem integer?_of_number? {i : Int} (h : Reading.number? text = some (.integer i)) :
    Reading.integer? text = some i := by
  unfold Reading.number? at h
  split at h
  next j hj =>
    have hfound : j = i := by
      have hreading := Option.some.inj h
      split at hreading
      · exact Reading.integer.inj hreading
      · simp at hreading
    exact hfound ▸ (Option.filter_eq_some_iff.mp hj).1
  next => simp at h

theorem double?_ne_integer (i : Int) : Reading.double? text ≠ some (.integer i) := by
  intro h
  unfold Reading.double? at h
  split at h
  · simp at h
  · simp only at h
    split at h
    · simp at h
    · split at h
      · simp at h
      · split at h
        · simp at h
        · simp at h

/-- A plain scalar that is read as an integer is one. -/
theorem integer?_of_ofPlain {i : Int} (h : Reading.ofPlain text = .integer i) :
    Reading.integer? text = some i := by
  unfold Reading.ofPlain at h
  split at h
  · simp at h
  · split at h
    · simp at h
    · split at h
      next r hnumber => exact integer?_of_number? (h ▸ hnumber)
      next =>
        split at h
        · simp at h
        · cases hdouble : Reading.double? text with
          | none => simp [hdouble] at h
          | some r =>
              rw [hdouble, Option.getD_some] at h
              exact absurd (h ▸ hdouble) (double?_ne_integer i)

/-- An integer that JSON reads is the integer that YAML reads. -/
theorem integer?_of_value (h : (Reading.ofPlain text).value text = .ok (.number number)) {i : Int}
    (hi : (Json.scalarOf (.number number)).integer? = some i) : Reading.integer? text = some i := by
  cases hread : Reading.ofPlain text with
  | integer j =>
      rw [hread] at h
      have hvalue : Json.ofInt j = .number number := Except.ok.inj h
      have hij : j = i := by
        cases j with
        | ofNat n =>
            obtain rfl := Json.number.inj hvalue
            exact Option.some.inj hi
        | negSucc n =>
            obtain rfl := Json.number.inj hvalue
            exact Option.some.inj hi
      exact hij ▸ integer?_of_ofPlain hread
  | double d =>
      rw [hread] at h
      obtain rfl := Json.number.inj (Except.ok.inj h)
      simp [Json.scalarOf] at hi
  | null | bool _ | wide _ | infinity _ | notANumber | text => simp [hread, Reading.value] at h

end Numeral

/-! ## Scalars -/

/-- A value that is no text refines to a scalar that has it where any value may stand, and is read
like it otherwise. -/
theorem scalarOf_refines (value : Json) {other : Scalar} (hvalue : ∀ s, value ≠ .string s)
    (hflag : ∀ b, value = .bool b → other.flag? = some b)
    (hinteger : ∀ i, -Int.pow 2 63 ≤ i → i < Int.pow 2 63 →
      (Json.scalarOf value).integer? = some i → other.integer? = some i)
    (hfree : other.free = .ok value) (habsence : other.absence = (Json.scalarOf value).absence)
    (hfound : ∀ x, other.found ≠ .text x) : (Json.scalarOf value).Refines other := by
  have hjson : (Json.scalarOf value).text? = none ∧ (Json.scalarOf value).hollow = false ∧
      (Json.scalarOf value).free = .ok value ∧ ∀ x, (Json.scalarOf value).found ≠ .text x := by
    cases value with
    | string s => exact absurd rfl (hvalue s)
    | number n => cases n <;> simp [Json.scalarOf]
    | null | bool _ | array _ | object _ => simp [Json.scalarOf]
  obtain ⟨htext, hhollow, hown, hword⟩ := hjson
  constructor
  · simp [htext]
  · intro b hb
    refine hflag b ?_
    cases value with
    | bool c => exact congrArg Json.bool (Option.some.inj hb)
    | number n => cases n <;> simp [Json.scalarOf] at hb
    | null | string _ | array _ | object _ => simp [Json.scalarOf] at hb
  · exact hinteger
  · intro v hv
    exact hfree.trans (hown.symm.trans hv)
  · intro b hb
    exact habsence.trans hb
  · exact fun x => ⟨fun h => absurd h (hword x), fun h => absurd h (hfound x)⟩
  · simp [hhollow]

theorem Numeral.refines {chars : List Char} {number : Number} (h : Numeral chars number) :
    (Json.scalarOf (.number number)).Refines (scalarOf true none .plain (String.ofList chars)) := by
  obtain ⟨hempty, hnull, htext⟩ := ofPlain_ne_of_value h.yaml
  refine scalarOf_refines (.number number) (by simp) (by simp) ?_ h.yaml ?_ ?_
  · intro i hlow hhigh hi
    have hfits : Reading.fits 63 63 i = true := by
      simp only [Reading.fits, Bool.and_eq_true, decide_eq_true_eq]
      exact ⟨hlow, hhigh⟩
    simp [scalarOf, isTyped, integer?_of_value h.yaml hi, hfits]
  · have habsence : (Json.scalarOf (.number number)).absence = .ok false := by
      cases number <;> rfl
    simp [scalarOf, absence, hempty, hnull, habsence]
  · intro x
    simp only [scalarOf, ScalarReading.ofScalar, if_true]
    cases hread : Reading.ofPlain (String.ofList chars) with
    | text => exact absurd hread htext
    | _ => simp [Reading.found]

theorem Dialect.word_refines (w : Word) : (json.word w).Refines (yaml.word w) := by
  cases w with
  | null =>
      have hfound : (yaml.word .null).found = .unit := rfl
      refine scalarOf_refines .null (by simp) (by simp) (by simp [Json.scalarOf]) rfl rfl ?_
      simp [hfound]
  | flag b =>
      have hfound : (yaml.word (.flag b)).found = .boolean b := by
        cases b <;> rfl
      have hfree : (yaml.word (.flag b)).free = .ok (.bool b) := by
        cases b <;> rfl
      have habsence : (yaml.word (.flag b)).absence = .ok false := by
        cases b <;> rfl
      have hflag : (yaml.word (.flag b)).flag? = some b := by
        cases b <;> rfl
      refine scalarOf_refines (.bool b) (by simp) ?_ (by simp [Json.scalarOf]) hfree habsence ?_
      · rintro c hc
        obtain rfl := Json.bool.inj hc
        exact hflag
      · simp [hfound]
  | numeral chars number h => exact h.refines

theorem Dialect.text_refines (s : String) : (json.text s).Refines (yaml.text s) :=
  ⟨fun _ h => h, by simp [json, Json.scalarOf], by simp [json, Json.scalarOf], fun _ h => h,
    fun _ h => h, fun _ => Iff.rfl, by simp [json, Json.scalarOf]⟩

/-! ## Shapes -/

section Shapes

variable {Place Place' : Type}

mutual

/-- What JSON makes of a shape refines to what YAML makes of it. -/
theorem Dialect.spells_refines (shape : Shape) {node : Node Place} {other : Node Place'}
    (h : json.Spells shape node) (hother : yaml.Spells shape other) : node.Refines other := by
  match shape with
  | .word w =>
      obtain ⟨place, rfl⟩ := exists_of_spells_word h
      obtain ⟨place', rfl⟩ := exists_of_spells_word hother
      exact word_refines w
  | .text glyphs =>
      obtain ⟨place, rfl⟩ := exists_of_spells_text h
      obtain ⟨place', rfl⟩ := exists_of_spells_text hother
      exact text_refines (textOf glyphs)
  | .array items =>
      obtain ⟨place, nodes, rfl, hitems⟩ := exists_of_spells_array h
      obtain ⟨place', nodes', rfl, hitems'⟩ := exists_of_spells_array hother
      exact ⟨rfl, spellsItems_refines items hitems hitems'⟩
  | .object members =>
      obtain ⟨place, entries, rfl, hmembers⟩ := exists_of_spells_object h
      obtain ⟨place', entries', rfl, hmembers'⟩ := exists_of_spells_object hother
      exact ⟨rfl, spellsMembers_refines members hmembers hmembers'⟩

theorem Dialect.spellsItems_refines (items : List Shape) {nodes : List (Node Place)}
    {others : List (Node Place')} (h : json.SpellsItems items nodes)
    (hothers : yaml.SpellsItems items others) : Node.RefinesItems nodes others := by
  match items with
  | [] =>
      obtain rfl := spellsItems_nil_iff.mp h
      obtain rfl := spellsItems_nil_iff.mp hothers
      exact trivial
  | item :: items =>
      obtain ⟨node, rest, rfl, hitem, hrest⟩ := exists_of_spellsItems_cons h
      obtain ⟨node', rest', rfl, hitem', hrest'⟩ := exists_of_spellsItems_cons hothers
      exact ⟨spells_refines item hitem hitem', spellsItems_refines items hrest hrest'⟩

theorem Dialect.spellsMembers_refines (members : List (Key × Shape))
    {entries : List (Node Place × Node Place)} {others : List (Node Place' × Node Place')}
    (h : json.SpellsMembers members entries) (hothers : yaml.SpellsMembers members others) :
    Node.RefinesEntries entries others := by
  match members with
  | [] =>
      obtain rfl := spellsMembers_nil_iff.mp h
      obtain rfl := spellsMembers_nil_iff.mp hothers
      exact trivial
  | (key, value) :: members =>
      obtain ⟨name, node, rest, rfl, hname, hvalue, hrest⟩ := exists_of_spellsMembers_cons h
      obtain ⟨name', node', rest', rfl, hname', hvalue', hrest'⟩ :=
        exists_of_spellsMembers_cons hothers
      exact ⟨spells_refines (.text key.glyphs) hname hname', spells_refines value hvalue hvalue',
        spellsMembers_refines members hrest hrest'⟩

end

end Shapes

end ResourceTemplate.Notation

import Mathlib.Data.List.Basic
import Mathlib.Data.String.Basic
import ResourceTemplate.Expansion.Reference
import ResourceTemplate.Proofs.Text.Occurrence

/-!
# Cutting a text at its references

A reference begins with a dollar sign, and no dollar sign stands further inside it.  A text can
therefore be cut in front of any dollar sign first, and each part into its pieces afterwards: that
is what `pieces_append_dollar` says, and what lets a reference be found wherever it stands in a
text.

What a text comes to depends on the values of the names that it refers to, and on no others.
Written out again, the pieces of a text are the text.  So a text in which no declared name is
referred to stays what it is when its references are resolved, and in any other text each reference
to a name gives way to the value of that name, the text around it being resolved by itself.
-/

namespace ResourceTemplate.Expansion

/-- A word that a reference can refer to. -/
structure IsName (name : List Char) : Prop where
  nonempty : name ≠ []
  chars : ∀ c ∈ name, isNameChar c = true

instance (name : List Char) : Decidable (IsName name) :=
  decidable_of_iff (name ≠ [] ∧ name.all isNameChar = true)
    ⟨fun h => ⟨h.1, List.all_eq_true.mp h.2⟩, fun h => ⟨h.nonempty, List.all_eq_true.mpr h.chars⟩⟩

/-! ## Where references stand -/

section Scan

variable {name : List Char}

theorem not_isNameChar_brace : isNameChar '\x7d' = false := by
  decide

/-- A name is what is taken up to the brace behind it. -/
theorem IsName.span (h : IsName name) (rest : List Char) :
    (name ++ '\x7d' :: rest).takeWhile isNameChar = name ∧
      (name ++ '\x7d' :: rest).dropWhile isNameChar = '\x7d' :: rest :=
  (Text.span_eq_iff not_isNameChar_brace).mpr ⟨h.chars, rfl⟩

theorem IsName.dollar_notMem (h : IsName name) : '$' ∉ name := by
  intro hmem
  exact absurd (h.chars '$' hmem) (by decide)

/-- A reference is found exactly where it is written. -/
theorem referenceAt?_eq_some {text : List Char} :
    referenceAt? text = some name ↔ IsName name ∧ ∃ rest, text = referenceChars name ++ rest := by
  constructor
  · intro h
    unfold referenceAt? at h
    split at h
    next rest =>
      dsimp only at h
      split at h
      next _ behind hname hbehind =>
        obtain rfl := Option.some.inj h
        obtain ⟨hchars, hrest⟩ := (Text.span_eq_iff not_isNameChar_brace).mp ⟨rfl, hbehind⟩
        exact ⟨⟨by simp [hname], hchars⟩, behind, by simpa [referenceChars] using hrest⟩
      · exact absurd h (by simp)
    · exact absurd h (by simp)
  · rintro ⟨hname, rest, rfl⟩
    have hshape : referenceChars name ++ rest = '$' :: '\x7b' :: (name ++ '\x7d' :: rest) := by
      simp [referenceChars]
    obtain ⟨c, cs, hcons⟩ := List.exists_cons_of_ne_nil hname.nonempty
    rw [hshape]
    simp only [referenceAt?, hname.span]
    simp only [hcons]

/-- A text refers to data exactly when it is such a reference as a whole. -/
theorem dataReference?_eq_some {text : List Char} :
    dataReference? text = some name ↔ IsName name ∧ text = dataReferenceChars name := by
  constructor
  · intro h
    unfold dataReference? at h
    split at h
    next rest =>
      dsimp only at h
      split at h
      next hname hbehind =>
        obtain rfl := Option.some.inj h
        obtain ⟨hchars, hrest⟩ := (Text.span_eq_iff not_isNameChar_brace).mp ⟨rfl, hbehind⟩
        exact ⟨⟨by simp [hname], hchars⟩, by simpa [dataReferenceChars] using hrest⟩
      · exact absurd h (by simp)
    · exact absurd h (by simp)
  · rintro ⟨hname, rfl⟩
    have hshape : dataReferenceChars name =
        '$' :: '\x7b' :: '\x7b' :: (name ++ '\x7d' :: ['\x7d']) := by
      simp [dataReferenceChars]
    obtain ⟨c, cs, hcons⟩ := List.exists_cons_of_ne_nil hname.nonempty
    rw [hshape]
    simp only [dataReference?, hname.span]
    simp only [hcons]

end Scan

/-! ## Pieces -/

theorem cut_eq (taken : Nat) (text : List Char) : cut taken text = pieces (text.drop taken) := by
  induction text generalizing taken with
  | nil => simp [cut, pieces]
  | cons c rest ih =>
      cases taken with
      | zero => rfl
      | succ taken =>
          rw [cut, ih taken]
          rfl

theorem pieces_of_none {c : Char} {rest : List Char} (h : referenceAt? (c :: rest) = none) :
    pieces (c :: rest) = .kept c :: pieces rest := by
  simp only [pieces, cut, h]

theorem pieces_reference {name : List Char} (h : IsName name) (rest : List Char) :
    pieces (referenceChars name ++ rest) = .reference name :: pieces rest := by
  have hfound : referenceAt? (referenceChars name ++ rest) = some name :=
    referenceAt?_eq_some.mpr ⟨h, rest, rfl⟩
  obtain ⟨tail, htail⟩ : ∃ tail, referenceChars name = '$' :: tail := ⟨_, rfl⟩
  rw [htail] at hfound ⊢
  simp only [pieces, List.cons_append, cut] at hfound ⊢
  -- The dollar sign has been looked at; what is still to be skipped is the rest of the reference.
  simp only [hfound, cut_eq, htail, List.length_cons, Nat.add_sub_cancel, List.drop_left]
  rfl

/-- What holds of the empty text, and of a text with a piece in front of one of which it holds,
holds of every text. -/
theorem pieces_induction {motive : List Char → Prop} (nil : motive [])
    (kept : ∀ c rest, referenceAt? (c :: rest) = none → motive rest → motive (c :: rest))
    (reference : ∀ name rest, IsName name → motive rest → motive (referenceChars name ++ rest))
    (text : List Char) : motive text := by
  induction hlength : text.length using Nat.strong_induction_on generalizing text with
  | _ n ih =>
      cases text with
      | nil => exact nil
      | cons c rest =>
          cases hfound : referenceAt? (c :: rest) with
          | none =>
              refine kept c rest hfound (ih rest.length ?_ rest rfl)
              simp [← hlength]
          | some name =>
              obtain ⟨hname, behind, hshape⟩ := referenceAt?_eq_some.mp hfound
              rw [hshape] at hlength ⊢
              refine reference name behind hname (ih behind.length ?_ behind rfl)
              simp [← hlength, referenceChars]
              omega

/-- How a piece is written. -/
def Piece.written : Piece → List Char
  | kept c => [c]
  | reference name => referenceChars name

/-- Written out again, the pieces of a text are the text. -/
theorem flatMap_written_pieces (text : List Char) : (pieces text).flatMap Piece.written = text := by
  induction text using pieces_induction with
  | nil => rfl
  | kept c rest hnone ih =>
      rw [pieces_of_none hnone, List.flatMap_cons, ih]
      rfl
  | reference name rest hname ih =>
      rw [pieces_reference hname, List.flatMap_cons, ih]
      rfl

/-- A dollar sign inside a text begins nothing that a reference in front of it could belong to. -/
theorem referenceAt?_append_dollar {text : List Char} (hne : text ≠ []) (rest : List Char)
    (h : referenceAt? text = none) : referenceAt? (text ++ '$' :: rest) = none := by
  refine Option.eq_none_iff_forall_ne_some.mpr fun name hfound => ?_
  obtain ⟨hname, behind, hshape⟩ := referenceAt?_eq_some.mp hfound
  rcases List.append_eq_append_iff.mp hshape with ⟨tail, hname', hrest⟩ | ⟨behind', htext, -⟩
  · cases tail with
    | nil =>
        have htext : text = referenceChars name ++ [] := by simpa using hname'.symm
        have hsome := referenceAt?_eq_some.mpr ⟨hname, [], htext⟩
        exact absurd (h.symm.trans hsome) (by simp)
    | cons d tail =>
        -- The reference would go on behind the text, with a dollar sign in the midst of it.
        obtain ⟨c, cs, rfl⟩ := List.exists_cons_of_ne_nil hne
        have hd : '$' = d := (List.cons.inj hrest).1
        have htail : '\x7b' :: name ++ ['\x7d'] = cs ++ d :: tail := (List.cons.inj hname').2
        have hmem : '$' ∈ '\x7b' :: name ++ ['\x7d'] := by
          rw [htail, hd]
          simp
        have hnot := hname.dollar_notMem
        simp [hnot] at hmem
  · have hsome := referenceAt?_eq_some.mpr ⟨hname, behind', htext⟩
    exact absurd (h.symm.trans hsome) (by simp)

/-- A text may be cut in front of a dollar sign. -/
theorem pieces_append_dollar (before rest : List Char) :
    pieces (before ++ '$' :: rest) = pieces before ++ pieces ('$' :: rest) := by
  -- Along the pieces of the first part, none of which reaches beyond its end.
  induction before using pieces_induction with
  | nil => rfl
  | kept c before hnone ih =>
      have hstill : referenceAt? (c :: before ++ '$' :: rest) = none :=
        referenceAt?_append_dollar (by simp) rest hnone
      rw [List.cons_append] at hstill
      rw [pieces_of_none hnone, List.cons_append, pieces_of_none hstill, ih]
      rfl
  | reference name before hname ih =>
      rw [pieces_reference hname, List.append_assoc, pieces_reference hname, ih]
      rfl

/-- The pieces of a text with a reference in it. -/
theorem pieces_append_reference {name : List Char} (h : IsName name) (before rest : List Char) :
    pieces (before ++ referenceChars name ++ rest) =
      pieces before ++ .reference name :: pieces rest := by
  rw [← pieces_reference h rest, List.append_assoc]
  exact pieces_append_dollar before _

/-- A text has a reference among its pieces exactly when it contains one. -/
theorem reference_mem_pieces {name text : List Char} :
    .reference name ∈ pieces text ↔ IsName name ∧ referenceChars name <:+: text := by
  constructor
  · intro hmem
    induction text using pieces_induction with
    | nil => simp [pieces, cut] at hmem
    | kept c rest hnone ih =>
        rw [pieces_of_none hnone] at hmem
        obtain ⟨hname, hwithin⟩ := ih (by simpa using hmem)
        exact ⟨hname, hwithin.trans (List.suffix_cons c rest).isInfix⟩
    | reference other rest hother ih =>
        rw [pieces_reference hother] at hmem
        rcases List.mem_cons.mp hmem with heq | hmem
        · obtain rfl := Piece.reference.inj heq
          exact ⟨hother, (List.prefix_append _ rest).isInfix⟩
        · obtain ⟨hname, hwithin⟩ := ih hmem
          exact ⟨hname, hwithin.trans (List.suffix_append _ rest).isInfix⟩
  · rintro ⟨hname, before, rest, rfl⟩
    rw [pieces_append_reference hname]
    simp

theorem hasReference_iff (text : String) :
    hasReference text = true ↔ ∃ name, IsName name ∧ referenceChars name <:+: text.toList := by
  unfold hasReference
  rw [List.any_eq_true]
  constructor
  · rintro ⟨piece, hmem, hpiece⟩
    cases piece with
    | kept c => exact absurd hpiece (by simp)
    | reference name => exact ⟨name, reference_mem_pieces.mp hmem⟩
  · rintro ⟨name, hname⟩
    exact ⟨.reference name, reference_mem_pieces.mpr hname, rfl⟩

/-! ## The names that a text refers to -/

/-- Whether a text refers to a name, by a reference somewhere in it or as data. -/
def RefersTo (text name : String) : Prop :=
  IsName name.toList ∧
    (referenceChars name.toList <:+: text.toList ∨ text.toList = dataReferenceChars name.toList)

instance (text name : String) : Decidable (RefersTo text name) :=
  inferInstanceAs (Decidable (_ ∧ _))

theorem refersTo_of_reference {text : String} {name : List Char}
    (h : .reference name ∈ pieces text.toList) : RefersTo text (String.ofList name) := by
  obtain ⟨hname, hwithin⟩ := reference_mem_pieces.mp h
  rw [RefersTo, String.toList_ofList]
  exact ⟨hname, Or.inl hwithin⟩

theorem refersTo_of_dataReference {text : String} {name : List Char}
    (h : dataReference? text.toList = some name) : RefersTo text (String.ofList name) := by
  obtain ⟨hname, hshape⟩ := dataReference?_eq_some.mp h
  rw [RefersTo, String.toList_ofList]
  exact ⟨hname, Or.inr hshape⟩

/-- Two assignments of values agree on every name that a text refers to. -/
def AgreeOn (values others : Dict String) (text : String) : Prop :=
  ∀ name, RefersTo text name → others.find? name = values.find? name

section Agreement

variable {values others : Dict String} {text : String}

theorem resolveText_congr (h : AgreeOn values others text) :
    resolveText others text = resolveText values text := by
  have hpieces : ∀ piece ∈ pieces text.toList, piece.resolve others = piece.resolve values := by
    intro piece hmem
    cases piece with
    | kept c => rfl
    | reference name => simp only [Piece.resolve, h _ (refersTo_of_reference hmem)]
  rw [resolveText, resolveText, List.flatMap_congr hpieces]

theorem evaluate_congr (h : AgreeOn values others text) :
    evaluate others text = evaluate values text := by
  have hdata : ((dataReference? text.toList).bind fun name => others.find? (String.ofList name)) =
      (dataReference? text.toList).bind fun name => values.find? (String.ofList name) := by
    cases hname : dataReference? text.toList with
    | none => rfl
    | some name => exact h _ (refersTo_of_dataReference hname)
  simp only [evaluate, hdata, resolveText_congr h]

theorem substituteText_congr (h : AgreeOn values others text) :
    substituteText others text = substituteText values text := by
  simp only [substituteText, evaluate_congr h]

end Agreement

/-! ## Texts without a declared reference -/

/-- No name that has a value is referred to in a text. -/
def Plain (values : Dict String) (text : String) : Prop :=
  ∀ name value, values.find? name = some value → ¬RefersTo text name

/-- On a plain text the values agree with none at all. -/
theorem Plain.agreeOn {values : Dict String} {text : String} (h : Plain values text) :
    AgreeOn [] values text := by
  intro name hrefers
  exact Option.eq_none_iff_forall_ne_some.mpr fun value hvalue => h name value hvalue hrefers

/-- Without values the pieces of a text are put together again. -/
theorem evaluate_nil (text : String) : evaluate [] text = .text text := by
  have hpieces : ∀ piece ∈ pieces text.toList, piece.resolve [] = piece.written := by
    intro piece _
    cases piece with
    | kept c => rfl
    | reference name => rfl
  have hdata : ((dataReference? text.toList).bind fun name =>
      Dict.find? ([] : Dict String) (String.ofList name)) = none := by
    cases dataReference? text.toList with
    | none => rfl
    | some name => rfl
  simp only [evaluate, hdata, resolveText, List.flatMap_congr hpieces, flatMap_written_pieces,
    String.ofList_toList]

theorem evaluate_of_plain {values : Dict String} {text : String} (h : Plain values text) :
    evaluate values text = .text text := by
  rw [evaluate_congr h.agreeOn, evaluate_nil]

theorem substituteText_of_plain {values : Dict String} {text : String} (h : Plain values text) :
    substituteText values text = text := by
  simp only [substituteText, evaluate_of_plain h]

/-! ## Texts with references to a name -/

/-- How a reference to a name is written. -/
def reference (name : String) : String := String.ofList (referenceChars name.toList)

/-- In the place of a reference stands the value of its name; what is around it is resolved by
itself. -/
theorem resolveText_intercalate {values : Dict String} {name value : String}
    (hname : IsName name.toList) (hvalue : values.find? name = some value) (parts : List String) :
    resolveText values ((reference name).intercalate parts) =
      value.intercalate (parts.map (resolveText values)) := by
  have hpart : ∀ part : String, (resolveText values part).toList =
      (pieces part.toList).flatMap (Piece.resolve values) := fun part => String.toList_ofList
  refine String.toList_injective ?_
  rw [hpart, String.toList_intercalate, String.toList_intercalate, reference, String.toList_ofList]
  induction parts with
  | nil => rfl
  | cons first rest ih =>
      cases rest with
      | nil => simp [List.intercalate, hpart]
      | cons second rest =>
          have hresolved : (Piece.reference name.toList).resolve values = value.toList := by
            simp [Piece.resolve, hvalue]
          simp only [List.map_cons, List.intercalate_cons_cons] at ih ⊢
          rw [pieces_append_reference hname, List.flatMap_append, List.flatMap_cons, hresolved, ih,
            hpart first, List.append_assoc]

/-- A text in which a name is referred to is not a reference to data. -/
theorem dataReference?_eq_none {name text : List Char} (hname : IsName name)
    (h : referenceChars name <:+: text) : dataReference? text = none := by
  refine Option.eq_none_iff_forall_ne_some.mpr fun other hdata => ?_
  obtain ⟨hother, rfl⟩ := dataReference?_eq_some.mp hdata
  -- Its only dollar sign is the first character, and no reference begins there.
  have hstart : referenceAt? (dataReferenceChars other) = none := by
    simp [referenceAt?, dataReferenceChars, show isNameChar '\x7b' = false from by decide]
  have hmem : .reference name ∈ pieces (dataReferenceChars other) :=
    reference_mem_pieces.mpr ⟨hname, h⟩
  obtain ⟨rest, hshape⟩ : ∃ rest, dataReferenceChars other = '$' :: rest := ⟨_, rfl⟩
  have hrest : '$' ∉ rest := by
    obtain rfl := List.tail_eq_of_cons_eq hshape
    have hdollar := hother.dollar_notMem
    simp [hdollar]
  rw [hshape] at hstart hmem
  rw [pieces_of_none hstart] at hmem
  have hlater : .reference name ∈ pieces rest := by simpa using hmem
  obtain ⟨-, hwithin⟩ := reference_mem_pieces.mp hlater
  exact hrest (hwithin.subset (by simp [referenceChars]))

/-- A text of two parts or more, between which a name is referred to, comes to a text. -/
theorem evaluate_intercalate {values : Dict String} {name value : String}
    (hname : IsName name.toList) (hvalue : values.find? name = some value) (first second : String)
    (rest : List String) :
    evaluate values ((reference name).intercalate (first :: second :: rest)) =
      .text (value.intercalate ((first :: second :: rest).map (resolveText values))) := by
  have hwithin : referenceChars name.toList <:+:
      ((reference name).intercalate (first :: second :: rest)).toList := by
    rw [String.toList_intercalate, reference, String.toList_ofList]
    simp only [List.map_cons, List.intercalate_cons_cons]
    exact ⟨_, _, rfl⟩
  have hnone := dataReference?_eq_none hname hwithin
  rw [evaluate, hnone, Option.bind_none, resolveText_intercalate hname hvalue]

end ResourceTemplate.Expansion

import ResourceTemplate.Proofs.Expansion.Reference
import ResourceTemplate.Proofs.Text.Occurrence

/-!
# Texts cut at their references

References in a text never overlap, since a reference has a dollar sign at its start and no other.
So a text is cut at its references in exactly one way, and what it comes to is written out along
that cutting: the value of a declared name stands in the place of each reference to it, an
undeclared reference stands for itself, and everything between references is kept.  Nothing that was
put in is looked at again.  Only a text that as a whole is a reference to data, and whose name is
declared, comes to data instead.

A text may be cut anywhere outside its references, and the parts resolved by themselves.
-/

namespace ResourceTemplate.Expansion

/-! ## Where references stand -/

/-- A reference to a name stands in a text behind so many characters. -/
def StandsAt (text name : List Char) (start : Nat) : Prop :=
  IsName name ∧
    ∃ before after, before.length = start ∧ text = before ++ referenceChars name ++ after

theorem length_referenceChars (name : List Char) :
    (referenceChars name).length = name.length + 3 := by
  simp [referenceChars]

/-- A reference stands where it is found when the text is read from there. -/
theorem standsAt_iff {text name : List Char} {start : Nat} :
    StandsAt text name start ↔ referenceAt? (text.drop start) = some name := by
  rw [referenceAt?_eq_some]
  refine and_congr_right fun _ => ⟨?_, ?_⟩
  · rintro ⟨before, after, rfl, rfl⟩
    exact ⟨after, by simp⟩
  · rintro ⟨after, hafter⟩
    have hlength := congrArg List.length hafter
    rw [List.length_append, length_referenceChars, List.length_drop] at hlength
    refine ⟨text.take start, after, List.length_take_of_le (by omega), ?_⟩
    rw [List.append_assoc, ← hafter, List.take_append_drop]

/-- At one place stands a reference to one name. -/
theorem StandsAt.unique {text name other : List Char} {start : Nat} (h : StandsAt text name start)
    (hother : StandsAt text other start) : name = other := by
  rw [standsAt_iff] at h hother
  exact Option.some.inj (h.symm.trans hother)

/-- References do not overlap: the next one begins behind the end of the one before. -/
theorem StandsAt.disjoint {text name other : List Char} {start next : Nat}
    (h : StandsAt text name start) (hother : StandsAt text other next) (hlt : start < next) :
    start + (referenceChars name).length ≤ next := by
  have hbegins : ∀ {name start}, StandsAt text name start →
      referenceChars name <+: text.drop start := by
    rintro name start ⟨-, before, after, rfl, rfl⟩
    rw [List.append_assoc, List.drop_left]
    exact List.prefix_append _ _
  have hdollar : '$' ∉ (referenceChars name).tail := by
    have hnot := h.1.dollar_notMem
    simp [referenceChars, hnot]
  exact Text.le_of_marked (hbegins h) (hbegins hother) hdollar hlt

theorem StandsAt.append_left {text name : List Char} {start : Nat} (h : StandsAt text name start)
    (before : List Char) : StandsAt (before ++ text) name (before.length + start) := by
  obtain ⟨hname, front, after, rfl, rfl⟩ := h
  exact ⟨hname, before ++ front, after, by simp, by simp⟩

theorem StandsAt.append_right {text name : List Char} {start : Nat} (h : StandsAt text name start)
    (after : List Char) : StandsAt (text ++ after) name start := by
  obtain ⟨hname, front, rest, rfl, rfl⟩ := h
  exact ⟨hname, front, rest ++ after, rfl, by simp⟩

theorem StandsAt.stop_le {text name : List Char} {start : Nat} (h : StandsAt text name start) :
    start + (referenceChars name).length ≤ text.length := by
  obtain ⟨-, front, rest, rfl, rfl⟩ := h
  simp

/-! ## Cuttings -/

/-- A text that is cut at references: what stands in front of the first, and each name with what
stands behind the reference to it. -/
structure Cutting where
  lead : List Char
  tail : List (List Char × List Char)

namespace Cutting

/-- The parts of a cutting, with something in the place of each reference. -/
def fill (put : List Char → List Char) (c : Cutting) : List Char :=
  c.lead ++ c.tail.flatMap fun part => put part.1 ++ part.2

/-- A reference to a name is cut out behind so many characters. -/
def CutsAt (c : Cutting) (name : List Char) (start : Nat) : Prop :=
  ∃ front behind rest, c.tail = front ++ (name, behind) :: rest ∧
    start = ((⟨c.lead, front⟩ : Cutting).fill referenceChars).length

/-- A cutting of a text is cut at every reference that stands in the text, and nowhere else. -/
structure Of (c : Cutting) (text : List Char) : Prop where
  written : c.fill referenceChars = text
  everywhere : ∀ name start, StandsAt text name start ↔ c.CutsAt name start

/-- The pieces of a cutting. -/
def pieces (c : Cutting) : List Piece :=
  c.lead.map .kept ++ c.tail.flatMap fun part => .reference part.1 :: part.2.map .kept

/-- The cutting of pieces. -/
def ofPieces : List Piece → Cutting
  | [] => ⟨[], []⟩
  | .kept c :: rest => ⟨c :: (ofPieces rest).lead, (ofPieces rest).tail⟩
  | .reference name :: rest => ⟨[], (name, (ofPieces rest).lead) :: (ofPieces rest).tail⟩

theorem ofPieces_kept_append (cs : List Char) (rest : List Piece) :
    ofPieces (cs.map .kept ++ rest) = ⟨cs ++ (ofPieces rest).lead, (ofPieces rest).tail⟩ := by
  induction cs with
  | nil => rfl
  | cons c cs ih => simp only [List.map_cons, List.cons_append, ofPieces, ih]

theorem ofPieces_pieces (c : Cutting) : ofPieces c.pieces = c := by
  have htail : ∀ tail : List (List Char × List Char),
      ofPieces (tail.flatMap fun part => .reference part.1 :: part.2.map .kept) = ⟨[], tail⟩ := by
    intro tail
    induction tail with
    | nil => rfl
    | cons part rest ih =>
        simp only [List.flatMap_cons, List.cons_append, ofPieces, ofPieces_kept_append, ih,
          List.append_nil]
  rw [pieces, ofPieces_kept_append, htail, List.append_nil]

theorem fill_ofPieces (put : List Char → List Char) (ps : List Piece) :
    (ofPieces ps).fill put = ps.flatMap fun
      | .kept c => [c]
      | .reference name => put name := by
  induction ps with
  | nil => rfl
  | cons piece rest ih =>
      cases piece with
      | kept c => simpa [ofPieces, fill] using ih
      | reference name => simpa [ofPieces, fill] using ih

theorem fill_referenceChars_ofPieces (ps : List Piece) :
    (ofPieces ps).fill referenceChars = ps.flatMap Piece.written := by
  rw [fill_ofPieces]
  refine List.flatMap_congr fun piece _ => ?_
  cases piece with
  | kept c => rfl
  | reference name => rfl

theorem ofPieces_append_reference (before : List Piece) (name : List Char) (after : List Piece) :
    ofPieces (before ++ .reference name :: after) =
      ⟨(ofPieces before).lead,
        (ofPieces before).tail ++ (name, (ofPieces after).lead) :: (ofPieces after).tail⟩ := by
  induction before with
  | nil => rfl
  | cons piece rest ih =>
      cases piece with
      | kept c => simp only [List.cons_append, ofPieces, ih]
      | reference other => simp only [List.cons_append, ofPieces, ih]

theorem reference_mem_of_tail {ps : List Piece} {part : List Char × List Char}
    (h : part ∈ (ofPieces ps).tail) : .reference part.1 ∈ ps := by
  induction ps generalizing part with
  | nil => exact absurd h List.not_mem_nil
  | cons piece rest ih =>
      cases piece with
      | kept c => exact List.mem_cons_of_mem _ (ih h)
      | reference name =>
          rcases List.mem_cons.mp h with rfl | h
          · exact List.mem_cons_self
          · exact List.mem_cons_of_mem _ (ih h)

/-- What is written out around one of the cuts. -/
theorem fill_append (put : List Char → List Char) (lead : List Char)
    (front : List (List Char × List Char)) (name behind : List Char)
    (rest : List (List Char × List Char)) :
    (⟨lead, front ++ (name, behind) :: rest⟩ : Cutting).fill put =
      (⟨lead, front⟩ : Cutting).fill put ++ put name ++ (⟨behind, rest⟩ : Cutting).fill put := by
  simp [fill]

/-- The pieces of a text cut it. -/
theorem of_ofPieces (text : List Char) : (ofPieces (Expansion.pieces text)).Of text := by
  have hwritten : (ofPieces (Expansion.pieces text)).fill referenceChars = text := by
    rw [fill_referenceChars_ofPieces, flatMap_written_pieces]
  refine ⟨hwritten, fun name start => ⟨?_, ?_⟩⟩
  · rintro ⟨hname, before, after, rfl, rfl⟩
    rw [pieces_append_reference hname, ofPieces_append_reference]
    refine ⟨_, _, _, rfl, ?_⟩
    have hfront := fill_referenceChars_ofPieces (Expansion.pieces before)
    rw [flatMap_written_pieces] at hfront
    exact congrArg List.length hfront.symm
  · rintro ⟨front, behind, rest, htail, rfl⟩
    have hmem : (name, behind) ∈ (ofPieces (Expansion.pieces text)).tail := by
      rw [htail]
      simp
    refine ⟨(reference_mem_pieces.mp (reference_mem_of_tail hmem)).1, _,
      (⟨behind, rest⟩ : Cutting).fill referenceChars, rfl, ?_⟩
    rw [← fill_append, ← htail]
    exact hwritten.symm

/-! ### A text is cut in one way -/

/-- No reference stands in a text. -/
def Unreferring (text : List Char) : Prop := ∀ name start, ¬StandsAt text name start

theorem pieces_of_unreferring {text : List Char} (h : Unreferring text) :
    Expansion.pieces text = text.map .kept := by
  induction text using pieces_induction with
  | nil => rfl
  | kept c rest hnone ih =>
      rw [pieces_of_none hnone, ih fun name start hstands =>
        h name (1 + start) (hstands.append_left [c])]
      rfl
  | reference name rest hname _ => exact absurd ⟨hname, [], rest, rfl, rfl⟩ (h name 0)

/-- Names and texts without references are the pieces of what is written of them. -/
theorem pieces_fill {c : Cutting} (hlead : Unreferring c.lead)
    (htail : ∀ part ∈ c.tail, IsName part.1 ∧ Unreferring part.2) :
    Expansion.pieces (c.fill referenceChars) = c.pieces := by
  obtain ⟨lead, tail⟩ := c
  induction tail generalizing lead with
  | nil =>
      have hshape : (⟨lead, []⟩ : Cutting).fill referenceChars = lead := by simp [fill]
      rw [hshape, pieces_of_unreferring hlead]
      simp [pieces]
  | cons part rest ih =>
      obtain ⟨name, behind⟩ := part
      obtain ⟨hname, hbehind⟩ := htail (name, behind) List.mem_cons_self
      have hrest := ih behind hbehind fun part hpart => htail part (List.mem_cons_of_mem _ hpart)
      have hshape := fill_append referenceChars lead [] name behind rest
      rw [List.nil_append] at hshape
      rw [hshape, pieces_append_reference hname, hrest]
      have hfront : (⟨lead, []⟩ : Cutting).fill referenceChars = lead := by simp [fill]
      rw [hfront, pieces_of_unreferring hlead]
      simp [pieces]

theorem length_fill_le (c : Cutting) : c.lead.length ≤ (c.fill referenceChars).length := by
  simp [fill]

theorem length_fill_append_le (lead : List Char) (front more : List (List Char × List Char)) :
    ((⟨lead, front⟩ : Cutting).fill referenceChars).length ≤
      ((⟨lead, front ++ more⟩ : Cutting).fill referenceChars).length := by
  simp [fill]

theorem Of.unreferring_lead {c : Cutting} {text : List Char} (h : c.Of text) :
    Unreferring c.lead := by
  intro name start hstands
  have htext : StandsAt text name start := by
    rw [← h.written, fill]
    exact hstands.append_right _
  obtain ⟨front, behind, rest, -, hstart⟩ := (h.everywhere name start).mp htext
  have hstop := hstands.stop_le
  have hlead := length_fill_le ⟨c.lead, front⟩
  rw [length_referenceChars] at hstop
  change c.lead.length ≤ _ at hlead
  omega

/-- Behind a cut stands no reference up to the next one. -/
theorem Of.unreferring_tail {c : Cutting} {text : List Char} (h : c.Of text)
    {part : List Char × List Char} (hpart : part ∈ c.tail) : Unreferring part.2 := by
  obtain ⟨name, behind⟩ := part
  obtain ⟨front, rest, htail⟩ := List.append_of_mem hpart
  obtain ⟨lead, tail⟩ := c
  change tail = front ++ (name, behind) :: rest at htail
  subst htail
  intro other start hstands
  change StandsAt behind other start at hstands
  have hbehind : (⟨behind, rest⟩ : Cutting).fill referenceChars =
      behind ++ rest.flatMap fun part => referenceChars part.1 ++ part.2 := rfl
  have htext := h.written
  rw [fill_append, hbehind, ← List.append_assoc] at htext
  have hother := (hstands.append_left
    ((⟨lead, front⟩ : Cutting).fill referenceChars ++ referenceChars name)).append_right
      (rest.flatMap fun part => referenceChars part.1 ++ part.2)
  rw [htext] at hother
  obtain ⟨front', behind', rest', htail', hstart⟩ := (h.everywhere _ _).mp hother
  have hstop := hstands.stop_le
  rw [length_referenceChars] at hstop
  rw [List.length_append, length_referenceChars] at hstart
  -- The cut that is found there lies behind this one, and not before the end of the text behind it.
  rcases List.append_eq_append_iff.mp htail' with ⟨more, hfront, hmore⟩ | ⟨more, hfront, -⟩
  · cases more with
    | nil =>
        rw [List.append_nil] at hfront
        subst hfront
        change _ = ((⟨lead, front'⟩ : Cutting).fill referenceChars).length at hstart
        omega
    | cons first more =>
        obtain rfl := (List.cons.inj hmore).1
        subst hfront
        change _ = ((⟨lead, front ++ (name, behind) :: more⟩ : Cutting).fill
          referenceChars).length at hstart
        have hbehind := length_fill_le ⟨behind, more⟩
        rw [fill_append, List.length_append, List.length_append, length_referenceChars] at hstart
        change behind.length ≤ _ at hbehind
        omega
  · subst hfront
    have hle := length_fill_append_le lead front' more
    change _ = ((⟨lead, front'⟩ : Cutting).fill referenceChars).length at hstart
    omega

/-- A text is cut in one way. -/
theorem Of.eq_ofPieces {c : Cutting} {text : List Char} (h : c.Of text) :
    c = ofPieces (Expansion.pieces text) := by
  have hnames : ∀ part ∈ c.tail, IsName part.1 := by
    intro part hpart
    obtain ⟨front, rest, htail⟩ := List.append_of_mem hpart
    exact ((h.everywhere part.1 _).mpr ⟨front, part.2, rest, htail, rfl⟩).1
  have hpieces := pieces_fill h.unreferring_lead
    fun part hpart => ⟨hnames part hpart, h.unreferring_tail hpart⟩
  rw [h.written] at hpieces
  rw [hpieces, ofPieces_pieces]

end Cutting

/-! ## What a text comes to -/

section Evaluation

variable (values : Dict String)

/-- What is put in the place of a reference to a name: its value, or the reference when there is
none. -/
def replacement (name : List Char) : List Char :=
  match values.find? (String.ofList name) with
  | some value => value.toList
  | none => referenceChars name

/-- A text as a whole refers to a declared name as data; the value of the name is given. -/
def RefersToData (text written : String) : Prop :=
  ∃ name, IsName name ∧ text.toList = dataReferenceChars name ∧
    values.find? (String.ofList name) = some written

variable {values}

theorem evaluate_eq_data_iff {text written : String} :
    evaluate values text = .data written ↔ RefersToData values text written := by
  have hfound : ((dataReference? text.toList).bind fun name => values.find? (String.ofList name)) =
      some written ↔ RefersToData values text written := by
    simp only [Option.bind_eq_some_iff, dataReference?_eq_some, RefersToData, and_assoc]
  rw [← hfound, evaluate]
  cases (dataReference? text.toList).bind fun name => values.find? (String.ofList name) with
  | none => simp
  | some other => simp

/-- A text that does not refer to declared data comes to the text in which its references are
resolved. -/
theorem evaluate_eq_text {text : String} (h : ∀ written, ¬RefersToData values text written) :
    evaluate values text = .text (resolveText values text) := by
  cases heval : evaluate values text with
  | data written => exact absurd (evaluate_eq_data_iff.mp heval) (h written)
  | text s =>
      unfold evaluate at heval
      split at heval
      · exact absurd heval (by simp)
      · exact heval.symm

theorem not_refersToData_of_evaluate {text s : String} (h : evaluate values text = .text s) :
    ∀ written, ¬RefersToData values text written := by
  intro written hrefers
  rw [evaluate_eq_data_iff.mpr hrefers] at h
  exact absurd h (by simp)

theorem substituteText_eq {text : String} (h : ∀ written, ¬RefersToData values text written) :
    substituteText values text = resolveText values text := by
  simp only [substituteText, evaluate_eq_text h]

/-- A text is resolved by putting values in the places at which it is cut. -/
theorem resolveText_eq_fill (text : String) :
    resolveText values text =
      String.ofList ((Cutting.ofPieces (pieces text.toList)).fill (replacement values)) := by
  rw [resolveText, Cutting.fill_ofPieces]
  refine congrArg String.ofList (List.flatMap_congr fun piece _ => ?_)
  cases piece with
  | kept c => rfl
  | reference name => rfl

end Evaluation

/-! ## Texts that are put together -/

/-- No reference in a text that is put together of two parts reaches from one into the other. -/
def Apart (first second : List Char) : Prop :=
  ∀ name start, StandsAt (first ++ second) name start →
    start + (referenceChars name).length ≤ first.length ∨ first.length ≤ start

theorem Apart.behind {before first second : List Char} (h : Apart (before ++ first) second) :
    Apart first second := by
  intro name start hstands
  have hshifted := hstands.append_left before
  rw [← List.append_assoc] at hshifted
  have hcases := h name (before.length + start) hshifted
  rw [List.length_append] at hcases
  omega

/-- A text may be cut anywhere but inside a reference. -/
theorem pieces_append {first second : List Char} (h : Apart first second) :
    pieces (first ++ second) = pieces first ++ pieces second := by
  induction first using pieces_induction with
  | nil => rfl
  | kept c rest hnone ih =>
      have hstill : referenceAt? (c :: (rest ++ second)) = none := by
        refine Option.eq_none_iff_forall_ne_some.mpr fun name hfound => ?_
        -- A reference that begins here would have to end in the first part, and was not found
        -- there.
        have hstands : StandsAt (c :: rest ++ second) name 0 := standsAt_iff.mpr hfound
        rcases h name 0 hstands with hwithin | hbehind
        · obtain ⟨hname, behind, hshape⟩ := referenceAt?_eq_some.mp hfound
          have hbegins : referenceChars name <+: c :: rest := by
            refine List.prefix_of_prefix_length_le ⟨behind, hshape.symm⟩
              (List.prefix_append (c :: rest) second) (by omega)
          obtain ⟨tail, htail⟩ := hbegins
          have hsome := referenceAt?_eq_some.mpr ⟨hname, tail, htail.symm⟩
          exact absurd (hnone.symm.trans hsome) (by simp)
        · simp at hbehind
      have hrest : Apart rest second := by
        have hsplit : Apart ([c] ++ rest) second := h
        exact hsplit.behind
      rw [pieces_of_none hnone, List.cons_append, pieces_of_none hstill, ih hrest]
      rfl
  | reference name rest hname ih =>
      rw [pieces_reference hname, List.append_assoc, pieces_reference hname, ih h.behind]
      rfl

theorem resolveText_append {values : Dict String} {first second : String}
    (h : Apart first.toList second.toList) :
    resolveText values (first ++ second) =
      resolveText values first ++ resolveText values second := by
  rw [resolveText, String.toList_append, pieces_append h, List.flatMap_append, String.ofList_append]
  rfl

/-- Without a dollar sign, nothing of a text belongs to a reference. -/
theorem pieces_append_of_notMem {text : List Char} (h : '$' ∉ text) (rest : List Char) :
    pieces (text ++ rest) = text.map .kept ++ pieces rest := by
  induction text with
  | nil => rfl
  | cons c cs ih =>
      obtain ⟨hc, hcs⟩ : '$' ≠ c ∧ '$' ∉ cs := by simpa using h
      have hnone : referenceAt? (c :: (cs ++ rest)) = none := by
        refine Option.eq_none_iff_forall_ne_some.mpr fun name hfound => ?_
        obtain ⟨-, behind, hshape⟩ := referenceAt?_eq_some.mp hfound
        exact hc (List.cons.inj hshape).1.symm
      rw [List.cons_append, pieces_of_none hnone, ih hcs]
      rfl

/-- A reference to data that is only part of a text is kept. -/
theorem pieces_dataReference {name : List Char} (hname : IsName name) (rest : List Char) :
    pieces (dataReferenceChars name ++ rest) =
      (dataReferenceChars name).map .kept ++ pieces rest := by
  obtain ⟨tail, htail⟩ : ∃ tail, dataReferenceChars name = '$' :: tail := ⟨_, rfl⟩
  have hdollar : '$' ∉ tail := by
    obtain rfl := List.tail_eq_of_cons_eq htail
    have hnot := hname.dollar_notMem
    simp [hnot]
  have hnone : referenceAt? (dataReferenceChars name ++ rest) = none := by
    simp [referenceAt?, dataReferenceChars, show isNameChar '\x7b' = false from by decide]
  rw [htail] at hnone ⊢
  rw [List.cons_append] at hnone ⊢
  rw [pieces_of_none hnone, pieces_append_of_notMem hdollar]
  rfl

theorem resolveText_around_dataReference {values : Dict String} {name : List Char}
    (hname : IsName name) (before after : String) :
    resolveText values (before ++ String.ofList (dataReferenceChars name) ++ after) =
      resolveText values before ++ String.ofList (dataReferenceChars name) ++
        resolveText values after := by
  have hkept : ∀ cs : List Char, (cs.map Piece.kept).flatMap (Piece.resolve values) = cs := by
    intro cs
    induction cs with
    | nil => rfl
    | cons c cs ih => simp only [List.map_cons, List.flatMap_cons, ih, Piece.resolve,
        List.singleton_append]
  have hcut : pieces (before.toList ++ dataReferenceChars name ++ after.toList) =
      pieces before.toList ++ ((dataReferenceChars name).map .kept ++ pieces after.toList) := by
    rw [List.append_assoc, ← pieces_dataReference hname]
    exact pieces_append_dollar before.toList _
  rw [resolveText, String.toList_append, String.toList_append, String.toList_ofList, hcut,
    List.flatMap_append, List.flatMap_append, hkept, String.ofList_append, String.ofList_append,
    String.append_assoc]
  rfl

/-- The references in a text do not overlap, and the text is cut at them in one way.  It comes to
data exactly when it is such a reference to a declared name as a whole, and else to the text in
which each reference that was cut out gives way to the value of its name; a reference to data is
kept there.  Parts of a text are evaluated by themselves when no reference reaches from one into the
other. -/
theorem evaluate_along_cutting (values : Dict String) :
    (∀ text : String,
      (∀ name other start next, StandsAt text.toList name start → StandsAt text.toList other next →
        start < next → start + (referenceChars name).length ≤ next) ∧
      (∀ written, evaluate values text = .data written ↔ RefersToData values text written) ∧
      ∃ c : Cutting, c.Of text.toList ∧ (∀ other : Cutting, other.Of text.toList → other = c) ∧
        ((∀ written, ¬RefersToData values text written) →
          evaluate values text = .text (String.ofList (c.fill (replacement values))))) ∧
    (∀ (before after : String) (name : List Char), IsName name →
      let text := before ++ String.ofList (dataReferenceChars name) ++ after
      (∀ written, ¬RefersToData values text written) →
        evaluate values text = .text (resolveText values before ++
          String.ofList (dataReferenceChars name) ++ resolveText values after)) ∧
    ∀ first second : String, Apart first.toList second.toList →
      (∀ text ∈ [first, second, first ++ second], ∀ written, ¬RefersToData values text written) →
        substituteText values (first ++ second) =
          substituteText values first ++ substituteText values second := by
  refine ⟨fun text => ⟨?_, fun written => evaluate_eq_data_iff, ?_⟩, ?_, ?_⟩
  · intro name other start next hstands hother hlt
    exact hstands.disjoint hother hlt
  · refine ⟨Cutting.ofPieces (pieces text.toList), Cutting.of_ofPieces _,
      fun other hother => hother.eq_ofPieces, fun hnone => ?_⟩
    rw [evaluate_eq_text hnone, resolveText_eq_fill]
  · intro before after name hname text hnone
    rw [evaluate_eq_text hnone, resolveText_around_dataReference hname]
  · intro first second hapart hnone
    rw [substituteText_eq (hnone first (by simp)), substituteText_eq (hnone second (by simp)),
      substituteText_eq (hnone (first ++ second) (by simp)), resolveText_append hapart]

/-- A value that looks like a reference to another. -/
def chained : Dict String := [("A", "$\x7bB\x7d"), ("B", "b")]

/-- A dollar sign may stand in front of a reference: it does not begin another one. -/
theorem apart_dollar_reference : Apart ['$'] (referenceChars ['A']) := by
  intro name start hstands
  have hstop := hstands.stop_le
  have hfound := standsAt_iff.mp hstands
  rw [length_referenceChars] at hstop
  cases start with
  | zero => exact absurd hfound (by simp [referenceAt?, referenceChars])
  | succ start => exact Or.inr (by simp)

theorem evaluate_along_cutting_chained :
    Apart "$".toList "$\x7bA\x7d".toList ∧
      (∀ text ∈ ["$", "$\x7bA\x7d", "$" ++ "$\x7bA\x7d"], ∀ written,
        ¬RefersToData chained text written) ∧
      substituteText chained ("$" ++ "$\x7bA\x7d") = "$" ++ "$\x7bB\x7d" ∧
      evaluate chained "$\x7b\x7bA\x7d\x7d" = .data "$\x7bB\x7d" ∧
      evaluate chained "$\x7b$\x7bA\x7d\x7d $\x7bA$\x7bB\x7d\x7d $\x7b\x7d $\x7b\x7bA\x7d $\x7bC\x7d" =
        .text "$\x7b$\x7bB\x7d\x7d $\x7bAb\x7d $\x7b\x7d $\x7b\x7bA\x7d $\x7bC\x7d" := by
  have hnone : ∀ text ∈ ["$", "$\x7bA\x7d", "$" ++ "$\x7bA\x7d"], ∀ written,
      ¬RefersToData chained text written := by
    intro text htext
    simp only [List.mem_cons, List.not_mem_nil, or_false] at htext
    rcases htext with rfl | rfl | rfl
    · exact not_refersToData_of_evaluate (s := "$") (by decide +kernel)
    · exact not_refersToData_of_evaluate (s := "$\x7bB\x7d") (by decide +kernel)
    · exact not_refersToData_of_evaluate (s := "$$\x7bB\x7d") (by decide +kernel)
  obtain ⟨heach, -, hparts⟩ := evaluate_along_cutting chained
  refine ⟨apart_dollar_reference, hnone, ?_, ?_, by decide +kernel⟩
  · rw [hparts "$" "$\x7bA\x7d" apart_dollar_reference hnone]
    decide +kernel
  · exact ((heach _).2.1 _).mpr ⟨['A'], by decide, by decide +kernel, by decide +kernel⟩

end ResourceTemplate.Expansion

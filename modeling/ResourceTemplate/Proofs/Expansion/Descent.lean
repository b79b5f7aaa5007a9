import ResourceTemplate.Proofs.Expansion.Evaluation
import ResourceTemplate.Proofs.Expansion.Substitution
import ResourceTemplate.Proofs.Outcome

/-!
# Substitution at every depth

A substitution in a value fails exactly when one of its strings, at any depth, refers to data that
cannot be read.  Keys cannot fail, as they come to texts only.  The first such string is told, in
the order in which the value is walked; it counts even when its member would have been overwritten
by a later one.

What a substitution comes to is said by `Becomes`, case by case.  The object that is built holds the
keys that the old keys come to, and under each of them what the member with the greatest such key
comes to.  A value comes to at most one other.
-/

namespace ResourceTemplate

namespace Json

mutual

/-- The strings in a value in the order in which they are met; keys are not among them. -/
def strings : Json → List String
  | string s => [s]
  | array items => stringsOfItems items
  | object members => stringsOfMembers members
  | _ => []

/-- The strings in all items. -/
def stringsOfItems : List Json → List String
  | [] => []
  | item :: rest => item.strings ++ stringsOfItems rest

/-- The strings in the values of all members. -/
def stringsOfMembers : List (String × Json) → List String
  | [] => []
  | (_, value) :: rest => value.strings ++ stringsOfMembers rest

end

end Json

namespace Expansion

variable (values : Dict String)

/-! ## Failing -/

/-- A text refers to data of a declared name whose value is no JSON text. -/
def Undecodable (text : String) : Prop :=
  ∃ written cause, RefersToData values text written ∧ Json.parse written = .error cause

/-- An error tells the first of some texts that refers to data that cannot be read, the value that
it refers to, and why that cannot be read. -/
def TellsFirst (texts : List String) (e : SubstitutionError) : Prop :=
  (∃ before after, texts = before ++ e.text :: after ∧ ∀ text ∈ before, ¬Undecodable values text) ∧
    RefersToData values e.text e.written ∧ Json.parse e.written = .error e.cause

/-- The error of a result. -/
def failure? {ε α : Type} : Except ε α → Option ε
  | .ok _ => none
  | .error e => some e

theorem failure?_eq_some_iff {ε α : Type} {result : Except ε α} {e : ε} :
    failure? result = some e ↔ result = .error e := by
  cases result with
  | ok value => simp [failure?]
  | error other => simp [failure?]

theorem failure?_eq_none_iff {ε α : Type} {result : Except ε α} :
    failure? result = none ↔ ∃ value, result = .ok value := by
  cases result with
  | ok value => simp [failure?]
  | error other => simp [failure?]

theorem failure?_map {ε α β : Type} (result : Except ε α) (f : α → β) :
    failure? (result.map f) = failure? result := by
  cases result with
  | ok value => rfl
  | error e => rfl

variable {values}

theorem substituteString_eq_error_iff {text : String} {e : SubstitutionError} :
    substituteString values text = .error e ↔
      e.text = text ∧ RefersToData values text e.written ∧ Json.parse e.written = .error e.cause := by
  rw [← evaluate_eq_data_iff, substituteString]
  cases heval : evaluate values text with
  | text s => simp
  | data written =>
      cases hparse : Json.parse written with
      | ok value =>
          simp only [hparse, reduceCtorEq, Evaluated.data.injEq, false_iff, not_and]
          rintro - rfl
          simp [hparse]
      | error cause =>
          obtain ⟨written', text', cause'⟩ := e
          simp only [hparse, Except.error.injEq, SubstitutionError.mk.injEq, Evaluated.data.injEq]
          constructor
          · rintro ⟨rfl, rfl, rfl⟩
            exact ⟨rfl, rfl, hparse⟩
          · rintro ⟨rfl, rfl, hcause⟩
            exact ⟨rfl, rfl, Except.error.inj (hparse.symm.trans hcause)⟩

theorem failure?_substituteString_eq_none_iff {text : String} :
    failure? (substituteString values text) = none ↔ ¬Undecodable values text := by
  constructor
  · rintro hnone ⟨written, cause, hrefers, hparse⟩
    have herror := substituteString_eq_error_iff.mpr
      (show (SubstitutionError.mk written text cause).text = text ∧ _ from ⟨rfl, hrefers, hparse⟩)
    rw [herror] at hnone
    exact absurd hnone (by simp [failure?])
  · intro hdecodable
    refine Option.eq_none_iff_forall_ne_some.mpr fun e herror => hdecodable ?_
    obtain ⟨-, hrefers, hparse⟩ := substituteString_eq_error_iff.mp (failure?_eq_some_iff.mp herror)
    exact ⟨e.written, e.cause, hrefers, hparse⟩

mutual

/-- A substitution fails with the first failure of its strings. -/
theorem failure?_substitute (value : Json) :
    failure? (substitute values value) =
      value.strings.findSome? fun text => failure? (substituteString values text) := by
  match value with
  | .string text =>
      rw [substitute, Json.strings, List.findSome?_cons, List.findSome?_nil]
      cases failure? (substituteString values text) <;> rfl
  | .array items => rw [substitute, failure?_map, Json.strings, failure?_substituteItems]
  | .object members => rw [substitute, failure?_map, Json.strings, failure?_substituteMembers]
  | .null | .bool b | .number n => rw [substitute]; rfl

theorem failure?_substituteItems (items : List Json) :
    failure? (substituteItems values items) =
      (Json.stringsOfItems items).findSome? fun text => failure? (substituteString values text) := by
  match items with
  | [] => rfl
  | item :: rest =>
      rw [substituteItems, Json.stringsOfItems, List.findSome?_append, ← failure?_substitute,
        ← failure?_substituteItems]
      cases substitute values item with
      | error e => rfl
      | ok done => exact failure?_map _ _

theorem failure?_substituteMembers (members : List (String × Json)) :
    failure? (substituteMembers values members) =
      (Json.stringsOfMembers members).findSome? fun text =>
        failure? (substituteString values text) := by
  match members with
  | [] => rfl
  | (key, value) :: rest =>
      rw [substituteMembers, Json.stringsOfMembers, List.findSome?_append, ← failure?_substitute,
        ← failure?_substituteMembers]
      cases substitute values value with
      | error e => rfl
      | ok done => exact failure?_map _ _

end

/-- A substitution succeeds exactly when no string refers to data that cannot be read. -/
theorem exists_substitute_iff {value : Json} :
    (∃ done, substitute values value = .ok done) ↔
      ∀ text ∈ value.strings, ¬Undecodable values text := by
  rw [← failure?_eq_none_iff, failure?_substitute, List.findSome?_eq_none_iff]
  exact forall₂_congr fun text _ => failure?_substituteString_eq_none_iff

theorem substitute_eq_error_iff {value : Json} {e : SubstitutionError} :
    substitute values value = .error e ↔ TellsFirst values value.strings e := by
  rw [← failure?_eq_some_iff, failure?_substitute, List.findSome?_eq_some_iff]
  constructor
  · rintro ⟨before, text, after, hstrings, hfails, hbefore⟩
    obtain ⟨rfl, hrefers, hparse⟩ :=
      substituteString_eq_error_iff.mp (failure?_eq_some_iff.mp hfails)
    exact ⟨⟨before, after, hstrings, fun other hother =>
      failure?_substituteString_eq_none_iff.mp (hbefore other hother)⟩, hrefers, hparse⟩
  · rintro ⟨⟨before, after, hstrings, hbefore⟩, hrefers, hparse⟩
    exact ⟨before, e.text, after, hstrings,
      failure?_eq_some_iff.mpr (substituteString_eq_error_iff.mpr ⟨rfl, hrefers, hparse⟩),
      fun other hother => failure?_substituteString_eq_none_iff.mpr (hbefore other hother)⟩

/-! ## Succeeding -/

variable (values)

/-- Of the members whose keys come to a text, the one with the greatest key. -/
structure GreatestFor (members : List (String × Json)) (key : String) (source : String × Json) :
    Prop where
  mem : source ∈ members
  key_eq : substituteText values source.1 = key
  greatest : ∀ member ∈ members, substituteText values member.1 = key → member.1 ≤ source.1

/-- What a value comes to when values are put in it at every depth. -/
inductive Becomes : Json → Json → Prop where
  | null : Becomes .null .null
  | bool (b : Bool) : Becomes (.bool b) (.bool b)
  | number (n : Number) : Becomes (.number n) (.number n)
  /-- A text has its references replaced. -/
  | text {s : String} (h : ∀ written, ¬RefersToData values s written) :
      Becomes (.string s) (.string (substituteText values s))
  /-- A reference to data is replaced by what its value says, which is not looked at again. -/
  | data {s written : String} {value : Json} (h : RefersToData values s written)
      (hparse : Json.parse written = .ok value) : Becomes (.string s) value
  | array {items done : List Json} (h : List.Forall₂ Becomes items done) :
      Becomes (.array items) (.array done)
  /-- Under each key that an old key comes to stands what the member of the greatest such key comes
  to. -/
  | object {members done : Dict Json} (source : String → String × Json) (hordered : done.Ordered)
      (hkeys : ∀ key, key ∈ done.map Prod.fst ↔ ∃ member ∈ members,
        substituteText values member.1 = key)
      (hsource : ∀ entry ∈ done, GreatestFor values members entry.1 (source entry.1))
      (hvalues : ∀ entry ∈ done, Becomes (source entry.1).2 entry.2) :
      Becomes (.object members) (.object done)

variable {values}

theorem becomes_of_substituteString {text : String} {done : Json}
    (h : substituteString values text = .ok done) : Becomes values (.string text) done := by
  unfold substituteString at h
  split at h
  next s heval =>
    obtain rfl := Except.ok.inj h
    have hnone := not_refersToData_of_evaluate heval
    have hs : s = substituteText values text := by simp only [substituteText, heval]
    rw [hs]
    exact .text hnone
  next written heval =>
    split at h
    next value hparse =>
      obtain rfl := Except.ok.inj h
      exact .data (evaluate_eq_data_iff.mp heval) hparse
    · exact absurd h (by simp)

/-- The members of an object are substituted in one by one. -/
theorem forall₂_of_substituteMembers {members found : List (String × Json)}
    (h : substituteMembers values members = .ok found) :
    List.Forall₂ (fun member entry => entry.1 = substituteText values member.1 ∧
      substitute values member.2 = .ok entry.2) members found := by
  induction members generalizing found with
  | nil =>
      obtain rfl := Except.ok.inj h
      exact .nil
  | cons member rest ih =>
      obtain ⟨key, value⟩ := member
      rw [substituteMembers] at h
      split at h
      next => exact absurd h (by simp)
      next first hfirst =>
        obtain ⟨others, hrest, rfl⟩ := exists_of_map_eq_ok h
        exact .cons ⟨rfl, hfirst⟩ (ih hrest)

/-- Of several members whose keys come to one text, the last is kept, which has the greatest key. -/
theorem exists_greatestFor {members found : List (String × Json)} (hordered : Dict.Ordered members)
    (hfound : List.Forall₂ (fun member entry => entry.1 = substituteText values member.1 ∧
      substitute values member.2 = .ok entry.2) members found) {entry : String × Json}
    (hentry : entry ∈ Dict.ofList found) :
    ∃ source, GreatestFor values members entry.1 source ∧
      substitute values source.2 = .ok entry.2 := by
  have hfind := (Dict.ordered_ofList found).mem_iff.mp hentry
  obtain ⟨before, after, rfl, hafter⟩ := Dict.find?_ofList_eq_some hfind
  have hbehind := List.forall₂_drop_append _ _ _ hfound
  obtain ⟨front, hfront⟩ : ∃ front, members = front ++ members.drop before.length :=
    ⟨_, (List.take_append_drop _ _).symm⟩
  generalize members.drop before.length = behind at hbehind hfront
  subst hfront
  cases hbehind with
  | @cons source _ rest _ hsource hrest =>
      refine ⟨source, ⟨by simp, hsource.1.symm, fun member hmember hkey => ?_⟩, hsource.2⟩
      rcases List.mem_append.mp hmember with hmember | hmember
      · exact le_of_lt ((List.pairwise_append.mp hordered).2.2 member hmember source (by simp))
      · rcases List.mem_cons.mp hmember with rfl | hmember
        · exact le_refl _
        · -- No key behind it comes to the same text.
          obtain ⟨i, hi, rfl⟩ := List.getElem_of_mem hmember
          have hlength := hrest.length_eq
          have hpair := hrest.get hi (by omega)
          exact absurd (hpair.1.trans hkey) (hafter _ (List.get_mem _ _))

mutual

/-- What a substitution gives is what the value becomes. -/
theorem becomes_of_substitute {value done : Json} (hcanonical : value.Canonical)
    (h : substitute values value = .ok done) : Becomes values value done := by
  match value with
  | .string text => exact becomes_of_substituteString h
  | .array items =>
      rw [substitute] at h
      obtain ⟨found, hitems, rfl⟩ := exists_of_map_eq_ok h
      exact .array (becomes_of_substituteItems hcanonical hitems)
  | .object members =>
      rw [substitute] at h
      obtain ⟨found, hmembers, rfl⟩ := exists_of_map_eq_ok h
      have hfound := forall₂_of_substituteMembers hmembers
      have hsource : ∀ key : String, ∃ source : String × Json,
          ∀ entry ∈ Dict.ofList found, entry.1 = key →
            GreatestFor values members entry.1 source ∧
              substitute values source.2 = .ok entry.2 := by
        intro key
        by_cases hkey : ∃ entry ∈ Dict.ofList found, entry.1 = key
        · obtain ⟨entry, hentry, rfl⟩ := hkey
          obtain ⟨source, hsource⟩ := exists_greatestFor hcanonical.1 hfound hentry
          refine ⟨source, fun other hother hsame => ?_⟩
          have hfind := (Dict.ordered_ofList found).mem_iff.mp hother
          rw [hsame, (Dict.ordered_ofList found).mem_iff.mp hentry] at hfind
          rw [hsame, ← Option.some.inj hfind]
          exact hsource
        · exact ⟨default, fun entry hentry hsame => absurd ⟨entry, hentry, hsame⟩ hkey⟩
      choose source hsource using hsource
      refine .object source (Dict.ordered_ofList found) (fun key => ⟨?_, ?_⟩)
        (fun entry hentry => (hsource _ entry hentry rfl).1) fun entry hentry => ?_
      · intro hkey
        obtain ⟨entry, hentry, rfl⟩ := List.mem_map.mp hkey
        have hgreatest := (hsource _ entry hentry rfl).1
        exact ⟨_, hgreatest.mem, hgreatest.key_eq⟩
      · rintro ⟨member, hmember, rfl⟩
        obtain ⟨i, hi, rfl⟩ := List.getElem_of_mem hmember
        have hlength := hfound.length_eq
        have hpair := hfound.get hi (by omega)
        have hmem := Dict.fst_mem_ofList (List.get_mem found ⟨i, by omega⟩)
        rw [hpair.1] at hmem
        exact hmem
      · obtain ⟨hgreatest, hvalue⟩ := hsource _ entry hentry rfl
        exact becomes_of_member hcanonical.2 hgreatest.mem hvalue
  | .null =>
      obtain rfl := Except.ok.inj h
      exact .null
  | .bool b =>
      obtain rfl := Except.ok.inj h
      exact .bool b
  | .number n =>
      obtain rfl := Except.ok.inj h
      exact .number n

theorem becomes_of_substituteItems {items done : List Json} (hcanonical : Json.CanonicalItems items)
    (h : substituteItems values items = .ok done) : List.Forall₂ (Becomes values) items done := by
  match items with
  | [] =>
      obtain rfl := Except.ok.inj h
      exact .nil
  | item :: rest =>
      rw [substituteItems] at h
      split at h
      next => exact absurd h (by simp)
      next first hfirst =>
        obtain ⟨others, hrest, rfl⟩ := exists_of_map_eq_ok h
        exact .cons (becomes_of_substitute hcanonical.1 hfirst)
          (becomes_of_substituteItems hcanonical.2 hrest)

theorem becomes_of_member {members : List (String × Json)}
    (hcanonical : Json.CanonicalMembers members) {member : String × Json} (hmember : member ∈ members)
    {done : Json} (h : substitute values member.2 = .ok done) : Becomes values member.2 done := by
  match members with
  | [] => exact absurd hmember List.not_mem_nil
  | (key, value) :: rest =>
      rcases List.mem_cons.mp hmember with rfl | hmember
      · exact becomes_of_substitute hcanonical.1 h
      · exact becomes_of_member hcanonical.2 hmember h

end

theorem RefersToData.unique {text written other : String} (h : RefersToData values text written)
    (hother : RefersToData values text other) : written = other := by
  rw [← evaluate_eq_data_iff] at h hother
  exact Evaluated.data.inj (h.symm.trans hother)

/-- In an object in order, one member has the greatest key of those that come to a text. -/
theorem GreatestFor.unique {members : Dict Json} (hordered : members.Ordered) {key : String}
    {source other : String × Json} (h : GreatestFor values members key source)
    (hother : GreatestFor values members key other) : source = other := by
  have hkey : source.1 = other.1 :=
    le_antisymm (hother.greatest source h.mem h.key_eq) (h.greatest other hother.mem hother.key_eq)
  have hfind := hordered.mem_iff.mp h.mem
  rw [hkey, hordered.mem_iff.mp hother.mem] at hfind
  exact Prod.ext hkey (Option.some.inj hfind).symm

mutual

/-- A value becomes one other at most. -/
theorem Becomes.unique {value first second : Json} (hcanonical : value.Canonical)
    (hfirst : Becomes values value first) (hsecond : Becomes values value second) :
    first = second := by
  match value with
  | .null | .bool b | .number n =>
      cases hfirst
      cases hsecond
      rfl
  | .string s =>
      cases hfirst with
      | text h =>
          cases hsecond with
          | text => rfl
          | data hdata _ => exact absurd hdata (h _)
      | data hdata hparse =>
          cases hsecond with
          | text h => exact absurd hdata (h _)
          | data hdata' hparse' =>
              rw [hdata.unique hdata', hparse'] at hparse
              exact (Except.ok.inj hparse).symm
  | .array items =>
      cases hfirst with
      | array hitems =>
          cases hsecond with
          | array hitems' => exact congrArg Json.array (Becomes.unique_items hcanonical hitems hitems')
  | .object members =>
      cases hfirst with
      | object source hordered hkeys hsource hvalues =>
          cases hsecond with
          | object source' hordered' hkeys' hsource' hvalues' =>
              refine congrArg Json.object (hordered.ext hordered' fun key => ?_)
              by_cases hkey : ∃ member ∈ members, substituteText values member.1 = key
              · obtain ⟨entry, hentry, rfl⟩ := List.mem_map.mp ((hkeys key).mpr hkey)
                obtain ⟨entry', hentry', hsame⟩ := List.mem_map.mp ((hkeys' entry.1).mpr hkey)
                have hgreatest := hsource entry hentry
                have hgreatest' := hsource' entry' hentry'
                have hvalue := hvalues entry hentry
                have hvalue' := hvalues' entry' hentry'
                rw [hsame] at hgreatest' hvalue'
                rw [← hgreatest.unique hcanonical.1 hgreatest'] at hvalue'
                have heq := Becomes.unique_member hcanonical.2 hgreatest.mem hvalue hvalue'
                rw [hordered.mem_iff.mp hentry, ← hsame, hordered'.mem_iff.mp hentry', heq]
              · have hnone : ∀ {done : Dict Json}, (key ∈ done.map Prod.fst ↔ ∃ member ∈ members,
                    substituteText values member.1 = key) → done.find? key = none :=
                  fun h => Dict.find?_eq_none_of_forall_ne fun entry hentry hsame =>
                    hkey (h.mp (List.mem_map.mpr ⟨entry, hentry, hsame⟩))
                rw [hnone (hkeys key), hnone (hkeys' key)]

theorem Becomes.unique_items {items first second : List Json}
    (hcanonical : Json.CanonicalItems items) (hfirst : List.Forall₂ (Becomes values) items first)
    (hsecond : List.Forall₂ (Becomes values) items second) : first = second := by
  match items with
  | [] =>
      cases hfirst
      cases hsecond
      rfl
  | item :: rest =>
      cases hfirst with
      | cons hitem hrest =>
          cases hsecond with
          | cons hitem' hrest' =>
              rw [hitem.unique hcanonical.1 hitem',
                Becomes.unique_items hcanonical.2 hrest hrest']

theorem Becomes.unique_member {members : List (String × Json)}
    (hcanonical : Json.CanonicalMembers members) {member : String × Json} (hmember : member ∈ members)
    {first second : Json} (hfirst : Becomes values member.2 first)
    (hsecond : Becomes values member.2 second) : first = second := by
  match members with
  | [] => exact absurd hmember List.not_mem_nil
  | (key, value) :: rest =>
      rcases List.mem_cons.mp hmember with rfl | hmember
      · exact hfirst.unique hcanonical.1 hsecond
      · exact Becomes.unique_member hcanonical.2 hmember hfirst hsecond

end

/-- A substitution in a canonical value succeeds exactly when no string in it refers to data that
cannot be read, and then gives what the value becomes.  Otherwise it tells the first such string.  A
value in which no text refers to a declared name is left as it is. -/
theorem substitute_at_every_depth (values : Dict String) {value : Json}
    (hcanonical : value.Canonical) :
    ((∃ done, substitute values value = .ok done) ↔
      ∀ text ∈ value.strings, ¬Undecodable values text) ∧
    (∀ e, substitute values value = .error e ↔ TellsFirst values value.strings e) ∧
    (∀ done, substitute values value = .ok done ↔
      (∀ text ∈ value.strings, ¬Undecodable values text) ∧ Becomes values value done) ∧
    ((∀ text ∈ value.texts, Plain values text) → substitute values value = .ok value) := by
  refine ⟨exists_substitute_iff, fun e => substitute_eq_error_iff, fun done => ⟨?_, ?_⟩,
    substitute_of_plain hcanonical⟩
  · intro h
    exact ⟨exists_substitute_iff.mp ⟨done, h⟩, becomes_of_substitute hcanonical h⟩
  · rintro ⟨hdecodable, hbecomes⟩
    obtain ⟨found, hfound⟩ := exists_substitute_iff.mpr hdecodable
    rw [hbecomes.unique hcanonical (becomes_of_substitute hcanonical hfound)]
    exact hfound

/-- Values of which one is data that looks like a reference, and one is no data. -/
def layered : Dict String := [("A", "k"), ("BAD", "three"), ("DATA", "\"$\x7bA\x7d\"")]

/-- An object of which two keys come to the same. -/
def crossed (first : String) : Json :=
  .object [("$\x7bA\x7d", .string first), ("a", .array [.null, .string "$\x7b\x7bDATA\x7d\x7d"]),
    ("k", .string "late")]

theorem canonical_crossed (first : String) : (crossed first).Canonical := by
  have hfirst : ∀ entry ∈ [("a", Json.array [.null, .string "$\x7b\x7bDATA\x7d\x7d"]),
      ("k", .string "late")], "$\x7bA\x7d" < entry.1 := by
    intro entry hentry
    simp only [List.mem_cons, List.not_mem_nil, or_false] at hentry
    rcases hentry with rfl | rfl <;> decide
  exact ⟨List.pairwise_cons.mpr ⟨hfirst, List.pairwise_pair.mpr (by decide)⟩, trivial,
    ⟨trivial, trivial, trivial⟩, trivial, trivial⟩

theorem substitute_at_every_depth_crossed :
    (crossed "early").Canonical ∧ (crossed "$\x7b\x7bBAD\x7d\x7d").Canonical ∧
      Becomes layered (crossed "early")
        (.object [("a", .array [.null, .string "$\x7bA\x7d"]), ("k", .string "late")]) ∧
      TellsFirst layered (crossed "$\x7b\x7bBAD\x7d\x7d").strings
        ⟨"three", "$\x7b\x7bBAD\x7d\x7d", ⟨.expectedIdent, ⟨1, 2⟩⟩⟩ := by
  have hdone := (substitute_at_every_depth layered (canonical_crossed "early")).2.2.1
  have herror :=
    (substitute_at_every_depth layered (canonical_crossed "$\x7b\x7bBAD\x7d\x7d")).2.1
  exact ⟨canonical_crossed _, canonical_crossed _, ((hdone _).mp (by decide +kernel)).2,
    (herror _).mp (by decide +kernel)⟩

end Expansion

end ResourceTemplate

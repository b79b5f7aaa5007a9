import Mathlib.Data.List.Nodup
import ResourceTemplate.Proofs.Dict.Ordered
import ResourceTemplate.Template.Basic

/-!
# Explicit values of parameters

Values are given by name, and a name may be declared more than once.  `givenAt` says which position
takes the value of a name: the first that has it.  Overriding a template changes the parameters at
these positions, each by the last value given to its name, and nothing else.
-/

namespace ResourceTemplate

/-- The explicit value for the parameter at a position.  Of several parameters of one name the first
takes it. -/
def givenAt (given : String → Option String) (names : List String) (i : Nat) : Option String :=
  match names[i]? with
  | none => none
  | some name => if names.idxOf name = i then given name else none

/-- The value that entries give to a name; the last entry counts. -/
def lastGiven (values : Dict String) (name : String) : Option String :=
  (Dict.ofList values).find? name

/-- A parameter with an explicit value, if there is one. -/
def Parameter.overriddenBy (p : Parameter) : Option String → Parameter
  | none => p
  | some value => p.override value

/-- Of two explicit values of one parameter the later counts. -/
theorem Parameter.overriddenBy_overriddenBy (p : Parameter) (first second : Option String) :
    (p.overriddenBy first).overriddenBy second = p.overriddenBy (second.or first) := by
  cases second with
  | none => rfl
  | some value => cases first <;> rfl

/-- What is given later counts at every position. -/
theorem givenAt_or (first second : String → Option String) (names : List String) (i : Nat) :
    givenAt (fun name => (second name).or (first name)) names i =
      (givenAt second names i).or (givenAt first names i) := by
  unfold givenAt
  cases names[i]? with
  | none => rfl
  | some name =>
      by_cases hfirst : names.idxOf name = i
      · simp only [hfirst, if_true]
      · simp only [hfirst, if_false]
        rfl

/-- A name that is declared once takes its value wherever it stands. -/
theorem givenAt_of_count_eq_one {names : List String} {name : String} {i : Nat}
    (honce : names.count name = 1) (hi : names[i]? = some name) (given : String → Option String) :
    givenAt given names i = given name := by
  have hfirst : names.idxOf name = i := by
    induction names generalizing i with
    | nil => simp at hi
    | cons first rest ih =>
        by_cases hname : first = name
        · subst hname
          have hrest : first ∉ rest := by
            rw [List.count_cons_self] at honce
            exact List.count_eq_zero.mp (by omega)
          cases i with
          | zero => exact List.idxOf_cons_self
          | succ i =>
              rw [List.getElem?_cons_succ] at hi
              exact absurd (List.mem_of_getElem? hi) hrest
        · rw [List.count_cons_of_ne hname] at honce
          cases i with
          | zero => exact absurd (Option.some.inj hi) hname
          | succ i => rw [List.idxOf_cons_ne _ hname, ih honce hi]
  simp [givenAt, hi, hfirst]

theorem lastGiven_concat (values : Dict String) (entry : String × String) (name : String) :
    lastGiven (values ++ [entry]) name =
      (if name = entry.1 then some entry.2 else none).or (lastGiven values name) := by
  rw [lastGiven, Dict.find?_ofList_concat]
  by_cases h : entry.1 = name
  · simp [h]
  · simp [h, Ne.symm h, lastGiven]

/-- When no name is given twice, an entry tells what its name is given. -/
theorem lastGiven_eq_some_iff {values : Dict String} (hkeys : (values.map Prod.fst).Nodup)
    {name value : String} : lastGiven values name = some value ↔ (name, value) ∈ values := by
  constructor
  · intro hgiven
    exact Dict.mem_of_mem_ofList (Dict.mem_of_find? hgiven)
  · intro hentry
    refine Dict.find?_ofList_of_unique hentry fun other hother => ?_
    have hsame := List.inj_on_of_nodup_map hkeys hother hentry rfl
    exact congrArg Prod.snd hsame

/-- In whatever order the entries stand, a name that is not given twice is given the same. -/
theorem lastGiven_of_perm {values others : Dict String} (hkeys : (values.map Prod.fst).Nodup)
    (horder : others.Perm values) (name : String) :
    lastGiven others name = lastGiven values name := by
  have hothers : (others.map Prod.fst).Nodup := (horder.map Prod.fst).nodup_iff.mpr hkeys
  refine Option.ext fun value => ?_
  rw [lastGiven_eq_some_iff hothers, lastGiven_eq_some_iff hkeys, horder.mem_iff]

/-- What a name is given does not depend on the entries of other names. -/
theorem lastGiven_filter (keep : String → Bool) {name : String} (hkeep : keep name = true)
    (values : Dict String) :
    lastGiven (values.filter fun entry => keep entry.1) name = lastGiven values name := by
  induction values using List.reverseRecOn with
  | nil => rfl
  | append_singleton values entry ih =>
      rw [List.filter_append, lastGiven_concat]
      cases hentry : keep entry.1 with
      | true =>
          have hlast : [entry].filter (fun entry => keep entry.1) = [entry] := by simp [hentry]
          rw [hlast, lastGiven_concat, ih]
      | false =>
          have hne : name ≠ entry.1 := by
            rintro rfl
            exact absurd (hkeep.symm.trans hentry) (by decide)
          have hlast : [entry].filter (fun entry => keep entry.1) = [] := by simp [hentry]
          rw [hlast, List.append_nil, ih, if_neg hne, Option.none_or]

namespace Template

/-- The names of the parameters. -/
def names (t : Template) : List String := t.parameters.map (·.name)

theorem getElem?_names {t : Template} {i : Nat} {p : Parameter} (hp : t.parameters[i]? = some p) :
    t.names[i]? = some p.name := by
  simp [names, hp]

theorem getElem?_modifyFirst (name : String) (f : Parameter → Parameter) (ps : List Parameter)
    (i : Nat) : (modifyFirst name f ps)[i]? =
      if (ps.map (·.name)).idxOf name = i then ps[i]?.map f else ps[i]? := by
  induction ps generalizing i with
  | nil => simp [modifyFirst]
  | cons p rest ih =>
      by_cases hp : p.name = name
      · have hindex : ((p :: rest).map (·.name)).idxOf name = 0 := by
          rw [List.map_cons, List.idxOf_cons_eq _ hp]
        rw [hindex, modifyFirst, if_pos hp]
        cases i with
        | zero => rfl
        | succ i => simp
      · have hindex : ((p :: rest).map (·.name)).idxOf name =
            (rest.map (·.name)).idxOf name + 1 := by
          rw [List.map_cons, List.idxOf_cons_ne _ hp]
        rw [hindex, modifyFirst, if_neg hp]
        cases i with
        | zero => simp
        | succ i => simpa using ih i

theorem names_override (t : Template) (name value : String) :
    (t.override name value).names = t.names := by
  have hnames : ∀ ps : List Parameter,
      (modifyFirst name (·.override value) ps).map (·.name) = ps.map (·.name) := by
    intro ps
    induction ps with
    | nil => rfl
    | cons p rest ih =>
        by_cases hp : p.name = name
        · rw [modifyFirst, if_pos hp]
          rfl
        · rw [modifyFirst, if_neg hp, List.map_cons, ih, List.map_cons]
  exact hnames t.parameters

/-- One override changes the first parameter of its name. -/
theorem getElem?_override (t : Template) (name value : String) (i : Nat) :
    (t.override name value).parameters[i]? = t.parameters[i]?.map fun p =>
      p.overriddenBy (givenAt (fun n => if n = name then some value else none) t.names i) := by
  have hmodified : (t.override name value).parameters[i]? = _ := getElem?_modifyFirst _ _ _ i
  rw [hmodified]
  cases hp : t.parameters[i]? with
  | none => simp
  | some p =>
      have hname := getElem?_names hp
      simp only [givenAt, hname]
      by_cases hsame : p.name = name
      · subst hsame
        by_cases hfirst : t.names.idxOf p.name = i
        · have hfirst' : (t.parameters.map (·.name)).idxOf p.name = i := hfirst
          simp [hfirst, hfirst', Parameter.overriddenBy]
        · have hfirst' : ¬(t.parameters.map (·.name)).idxOf p.name = i := hfirst
          simp [hfirst, hfirst', Parameter.overriddenBy]
      · -- Another name has its first position elsewhere.
        have hother : ¬(t.parameters.map (·.name)).idxOf name = i := by
          intro hindex
          have hlt : i < (t.parameters.map (·.name)).length := by
            rw [List.length_map]
            exact (List.getElem?_eq_some_iff.mp hp).1
          have hget : (t.parameters.map (·.name))[i]? = some name := by
            rw [← hindex] at hlt ⊢
            exact List.getElem?_idxOf (List.idxOf_lt_length_iff.mp hlt)
          exact hsame (Option.some.inj (hname.symm.trans hget))
        simp [hother, hsame, Parameter.overriddenBy]

/-- What overriding does not concern. -/
theorem override_eq (t : Template) (name value : String) :
    t.override name value = { t with parameters := (t.override name value).parameters } := rfl

/-! ## Several values -/

theorem overrideAll_concat (t : Template) (values : Dict String) (entry : String × String) :
    t.overrideAll (values ++ [entry]) = (t.overrideAll values).override entry.1 entry.2 :=
  List.foldl_append

/-- Overriding changes nothing but the parameters. -/
theorem overrideAll_eq (t : Template) (values : Dict String) :
    t.overrideAll values = { t with parameters := (t.overrideAll values).parameters } := by
  induction values using List.reverseRecOn with
  | nil => rfl
  | append_singleton values entry ih =>
      rw [overrideAll_concat, override_eq, ih]

theorem names_overrideAll (t : Template) (values : Dict String) :
    (t.overrideAll values).names = t.names := by
  induction values using List.reverseRecOn with
  | nil => rfl
  | append_singleton values entry ih => rw [overrideAll_concat, names_override, ih]

theorem length_overrideAll (t : Template) (values : Dict String) :
    (t.overrideAll values).parameters.length = t.parameters.length := by
  have hnames := congrArg List.length (t.names_overrideAll values)
  simpa [names] using hnames

/-- Overriding gives the first parameter of each name the last value given to that name. -/
theorem getElem?_overrideAll (t : Template) (values : Dict String) (i : Nat) :
    (t.overrideAll values).parameters[i]? = t.parameters[i]?.map fun p =>
      p.overriddenBy (givenAt (lastGiven values) t.names i) := by
  induction values using List.reverseRecOn with
  | nil =>
      have hnone : givenAt (lastGiven []) t.names i = none := by
        unfold givenAt
        split
        · rfl
        · split <;> rfl
      rw [hnone]
      exact Option.map_id'.symm
  | append_singleton values entry ih =>
      rw [overrideAll_concat, getElem?_override, ih, names_overrideAll, Option.map_map]
      congr 1
      funext p
      rw [Function.comp_apply, Parameter.overriddenBy_overriddenBy, ← givenAt_or]
      exact congrArg (fun given => p.overriddenBy (givenAt given t.names i))
        (funext fun name => (lastGiven_concat values entry name).symm)

/-- A template takes from its explicit values what they give to the names that it declares. -/
theorem overrideAll_congr {t : Template} {values others : Dict String}
    (h : ∀ name ∈ t.names, lastGiven others name = lastGiven values name) :
    t.overrideAll others = t.overrideAll values := by
  have hgiven : ∀ i, givenAt (lastGiven others) t.names i =
    givenAt (lastGiven values) t.names i := by
    intro i
    unfold givenAt
    cases hname : t.names[i]? with
    | none => rfl
    | some name => simp only [h name (List.mem_of_getElem? hname)]
  have hparameters : (t.overrideAll others).parameters = (t.overrideAll values).parameters := by
    refine List.ext_getElem? fun i => ?_
    rw [getElem?_overrideAll, getElem?_overrideAll, hgiven]
  rw [overrideAll_eq t others, overrideAll_eq t values, hparameters]

end Template

end ResourceTemplate

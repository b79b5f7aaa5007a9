import Mathlib.Data.List.Forall2
import ResourceTemplate.Command.Read
import ResourceTemplate.Command.Run
import ResourceTemplate.Proofs.Outcome
import ResourceTemplate.Proofs.Template.Assignment

/-!
# Precedence of values

The values of the parameters come from a parameter file and from the flags of the command line.  A
flag counts before the file, and of several flags, as of several lines, the last one counts.
Whether the file can be read at all is a matter of the file alone, and the first faulty line is the
one that is told.

A flag that is no assignment ends the reading of the command line, so every flag of a command that
can be run assigns a value, and the assignments stand in the order of the flags.
-/

namespace ResourceTemplate.Command

open ParameterFile Assignment

/-! ## Flags of a command line -/

/-- Texts that were given as flags are read as these assignments. -/
def FlagsRead (flags : List String) (assignments : List Assignment) : Prop :=
  List.Forall₂ (fun flag a => Assigns flag.toList a.name a.value) flags assignments

theorem FlagsRead.filterMap_eq {flags : List String} {assignments : List Assignment}
    (h : FlagsRead flags assignments) :
    flags.filterMap (fun flag => read? flag.toList) = assignments := by
  induction h with
  | nil => rfl
  | cons hflag _ ih => rw [List.filterMap_cons, read?_eq_some_iff.mpr hflag, ih]

theorem flagsRead_filterMap {flags : List String}
    (h : ∀ flag ∈ flags, ∃ a, read? flag.toList = some a) :
    FlagsRead flags (flags.filterMap fun flag => read? flag.toList) := by
  induction flags with
  | nil => exact .nil
  | cons flag flags ih =>
      obtain ⟨⟨a, ha⟩, hflags⟩ := List.forall_mem_cons.mp h
      rw [List.filterMap_cons, ha]
      exact .cons (read?_eq_some_iff.mp ha) (ih hflags)

namespace Progress

/-- Every slot that is filled may hold its value. -/
def Checked (p : Progress) : Prop :=
  ∀ entry ∈ p.given, check entry.1 entry.2 = .ok ()

variable {p q : Progress} {slot : Slot} {value : String}

theorem Checked.fill (h : p.Checked) (hfill : p.fill slot value = .ok q) : q.Checked := by
  unfold Progress.fill at hfill
  split at hfill
  · exact absurd hfill (by simp)
  · split at hfill
    next => exact absurd hfill (by simp)
    next hcheck =>
      obtain rfl := Except.ok.inj hfill
      intro entry hentry
      rcases List.mem_append.mp hentry with hentry | hentry
      · exact h entry hentry
      · obtain rfl := List.mem_singleton.mp hentry
        exact hcheck

theorem Checked.settle (h : p.Checked) (hsettle : p.settle = .ok q) : q.Checked := by
  unfold Progress.settle at hsettle
  split at hsettle
  · exact Except.ok.inj hsettle ▸ h
  · exact absurd hsettle (by simp)
  · exact Checked.fill (p := { p with pending? := none }) h hsettle

theorem Checked.await {value? : Option String} (h : p.Checked)
    (hawait : p.await slot value? = .ok q) : q.Checked := by
  obtain ⟨settled, hsettled, rfl⟩ := exists_of_map_eq_ok hawait
  have hchecked : settled.Checked := h.settle hsettled
  exact hchecked

theorem Checked.attach (h : p.Checked) (hattach : p.attach slot value = .ok q) : q.Checked := by
  unfold Progress.attach at hattach
  split at hattach
  · exact absurd hattach (by simp)
  next hsettled => exact (h.settle hsettled).fill hattach

theorem Checked.switch {verb? : Option Verb} (h : p.Checked)
    (hswitch : p.switch verb? slot = .ok q) : q.Checked := by
  unfold Progress.switch at hswitch
  split at hswitch
  · exact absurd hswitch (by simp)
  next hsettled =>
    split at hswitch
    · exact absurd hswitch (by simp)
    · exact absurd hswitch (by simp)
    · exact (h.settle hsettled).fill hswitch

theorem Checked.readLong {verb? : Option Verb} {word : List Char} (h : p.Checked)
    (hread : p.readLong verb? word = .ok q) : q.Checked := by
  unfold Progress.readLong at hread
  dsimp only at hread
  split at hread
  · exact absurd hread (by simp)
  · split at hread
    · exact h.switch hread
    · exact h.await hread
    · exact absurd hread (by simp)
    · exact h.attach hread

theorem Checked.readLetters {verb? : Option Verb} {letters : List Char} (h : p.Checked)
    (hread : readLetters verb? letters p = .ok q) : q.Checked := by
  induction letters generalizing p with
  | nil => exact Except.ok.inj hread ▸ h
  | cons c rest ih =>
      unfold Progress.readLetters at hread
      split at hread
      · exact absurd hread (by simp)
      · split at hread
        · split at hread
          · exact absurd hread (by simp)
          next hswitched => exact ih (h.switch hswitched) hread
        · exact h.await hread
        · exact h.attach hread
        · exact h.attach hread

theorem Checked.readPath {word : String} (h : p.Checked) (hread : p.readPath word = .ok q) :
    q.Checked := by
  unfold Progress.readPath at hread
  dsimp only at hread
  split at hread
  · exact absurd hread (by simp)
  · exact h.await hread

theorem Checked.readWord {verb : Verb} {word : String} (h : p.Checked)
    (hread : p.readWord verb word = .ok q) : q.Checked := by
  unfold Progress.readWord at hread
  split at hread
  · exact h.readPath hread
  · split at hread
    · exact Except.ok.inj hread ▸ h
    · exact h.readLong hread
    · exact h.readLetters hread
    · unfold Progress.readValue at hread
      split at hread
      · exact Except.ok.inj hread ▸ h
      · exact h.readPath hread

theorem Checked.readWords {verb : Verb} {words : List String} (h : p.Checked)
    (hread : readWords verb words p = .ok q) : q.Checked := by
  induction words generalizing p with
  | nil => exact h.settle hread
  | cons word rest ih =>
      unfold Progress.readWords at hread
      split at hread
      · exact absurd hread (by simp)
      next hword => exact ih (h.readWord hword) hread

/-- The flags of a command line that is read to its end are read as the assignments of its
rendering. -/
theorem flagsRead_of_readWords {verb : Verb} {words : List String}
    (h : start.readWords verb words = .ok p) (template : String) :
    FlagsRead (p.values .parameter) (p.rendering template).assignments := by
  have hchecked : p.Checked := Checked.readWords (p := start) (by simp [Checked, start]) h
  refine flagsRead_filterMap fun flag hflag => ?_
  obtain ⟨entry, hentry, heq⟩ := List.mem_filterMap.mp hflag
  split_ifs at heq with hslot
  obtain rfl := Option.some.inj heq
  have hcheck := hchecked entry hentry
  simp only [hslot, check] at hcheck
  split_ifs at hcheck with hread
  exact Option.isSome_iff_exists.mp hread

end Progress

/-! ## Values -/

theorem RenderOptions.values_eq {o : RenderOptions} {files : String → FileAnswer} {path text : String}
    (hpath : o.parameterFile? = some path) (htext : files path = .ok text) :
    o.values files =
      ((readLines 1 (Text.fileLines text.toList)).map fun inside =>
        Assignment.values (inside ++ o.assignments)).mapError fun e => ⟨e.message path, []⟩ := by
  simp only [RenderOptions.values, hpath, htext, ParameterFile.values, ParameterFile.read,
    Text.fileLines, readLines_endedLines]

theorem RenderOptions.values_of_faulty {o : RenderOptions} {files : String → FileAnswer}
    {path text : String} (hpath : o.parameterFile? = some path) (htext : files path = .ok text)
    {before after : List (List Char)} {line : List Char}
    (hlines : Text.fileLines text.toList = before ++ line :: after)
    (hbefore : ∀ earlier ∈ before, ¬Faulty earlier) (hline : Faulty line) :
    o.values files =
      .error ⟨BadLine.message path ⟨before.length + 1, String.ofList (Text.trim line)⟩, []⟩ := by
  rw [o.values_eq hpath htext, hlines, readLines_eq_error hbefore hline, Nat.add_comm]
  rfl

theorem RenderOptions.values_of_sound {o : RenderOptions} {files : String → FileAnswer}
    {path text : String} (hpath : o.parameterFile? = some path) (htext : files path = .ok text)
    (hlines : ∀ line ∈ Text.fileLines text.toList, ¬Faulty line) :
    o.values files = .ok (Assignment.values
      ((Text.fileLines text.toList).filterMap assignment? ++ o.assignments)) := by
  rw [o.values_eq hpath htext, readLines_eq_ok hlines]
  rfl

/-- Flags count before the file, and later ones before earlier ones.  The values are refused when a
line of the file that is neither blank nor a comment assigns nothing, whatever the flags are, and
the first such line is told with its number among all lines.  Otherwise a name has the value of the
last flag for it, or else that of the last line for it, or else none. -/
theorem values_by_precedence {o : RenderOptions} {files : String → FileAnswer} {path text : String}
    {flags : List String} (hpath : o.parameterFile? = some path) (htext : files path = .ok text)
    (hflags : FlagsRead flags o.assignments) :
    let lines := Text.fileLines text.toList
    ((∃ e, o.values files = .error e) ↔ ∃ line ∈ lines, Faulty line) ∧
    (∀ before line after, lines = before ++ line :: after → (∀ earlier ∈ before, ¬Faulty earlier) →
      Faulty line → o.values files =
        .error ⟨BadLine.message path ⟨before.length + 1, String.ofList (Text.trim line)⟩, []⟩) ∧
    ((∀ line ∈ lines, ¬Faulty line) → ∃ values, o.values files = .ok values ∧ ∀ name,
      (∀ value, LastGives (fun flag => Assigns flag.toList) flags name value →
        values.find? name = some value) ∧
      ((∀ flag ∈ flags, ¬∃ value, Assigns flag.toList name value) →
        (∀ value, LastGives Sets lines name value → values.find? name = some value) ∧
        ((∀ line ∈ lines, ¬∃ value, Sets line name value) → values.find? name = none))) := by
  intro lines
  refine ⟨⟨?_, ?_⟩, fun before line after => o.values_of_faulty hpath htext, fun hsound => ?_⟩
  · rintro ⟨e, he⟩
    by_contra hnone
    -- A file without a faulty line gives values.
    have hsound : ∀ line ∈ lines, ¬Faulty line :=
      fun line hline hfaulty => hnone ⟨line, hline, hfaulty⟩
    rw [o.values_of_sound hpath htext hsound] at he
    exact absurd he (by simp)
  · rintro ⟨faulty, hmem, hfaulty⟩
    obtain ⟨line, hfind⟩ := Option.isSome_iff_exists.mp
      ((List.find?_isSome (p := fun line => decide (Faulty line))).mpr
        ⟨faulty, hmem, decide_eq_true hfaulty⟩)
    obtain ⟨hline, before, after, hlines, hbefore⟩ := List.find?_eq_some_iff_append.mp hfind
    refine ⟨_, o.values_of_faulty hpath htext hlines (fun earlier hearlier => ?_)
      (of_decide_eq_true hline)⟩
    simpa using hbefore earlier hearlier
  · refine ⟨_, o.values_of_sound hpath htext hsound, fun name => ?_⟩
    -- The values of the file and of the flags are looked up apart, and each is that of its last
    -- assignment.
    have hflag : ∀ value, (Assignment.values o.assignments).find? name = some value ↔
        LastGives (fun flag : String => Assigns flag.toList) flags name value := by
      rw [← hflags.filterMap_eq]
      exact fun value => find?_values_filterMap fun flag a => read?_eq_some_iff
    have hline : ∀ value, (Assignment.values (lines.filterMap assignment?)).find? name = some value ↔
        LastGives Sets lines name value :=
      fun value => find?_values_filterMap fun line a => assignment?_eq_some_iff
    simp only [find?_values_append]
    refine ⟨fun value h => ?_, fun hnone => ?_⟩
    · rw [(hflag value).mpr h, Option.some_or]
    · have hbeside : (Assignment.values o.assignments).find? name = none := by
        refine Option.eq_none_iff_forall_ne_some.mpr fun value h => ?_
        obtain ⟨flag, hmem, hassigns⟩ := ((hflag value).mp h).exists_mem
        exact hnone flag hmem ⟨value, hassigns⟩
      rw [hbeside, Option.none_or]
      refine ⟨fun value h => (hline value).mpr h, fun hunset => ?_⟩
      refine Option.eq_none_iff_forall_ne_some.mpr fun value h => ?_
      obtain ⟨line, hmem, hsets⟩ := ((hline value).mp h).exists_mem
      exact hunset line hmem ⟨value, hsets⟩

/-- A rendering with a parameter file and three flags, two of them for one name. -/
def tieredRendering : RenderOptions where
  template := "t.yaml"
  parameterFile? := some "tier.env"
  assignments := [⟨"NAME", "gold"⟩, ⟨"COLOR", ""⟩, ⟨"NAME", "plat=inum "⟩]
  kinds := []
  namespacesOnly := false
  skipNamespaces := false

/-- The flags win over two lines for the name; behind a comment and a blank line the fourth line is
the one that is told. -/
theorem values_by_precedence_tiered :
    let flags := ["NAME=gold", " COLOR =", "NAME=plat=inum "]
    let sound := "# tier\r\nNAME=basic\n\n  SIZE = a=b \r\nNAME=silver"
    let faulty := "NAME=basic\n# tier\n\n =oops\nNAME"
    FlagsRead flags tieredRendering.assignments ∧
      (∃ values, tieredRendering.values (fun _ => .ok sound) = .ok values ∧
        values.find? "NAME" = some "plat=inum " ∧ values.find? "SIZE" = some " a=b" ∧
        values.find? "OTHER" = none) ∧
      tieredRendering.values (fun _ => .ok faulty) =
        .error ⟨"tier.env:4: expected NAME=VALUE, got '=oops'", []⟩ := by
  intro flags sound faulty
  have hflags : FlagsRead flags tieredRendering.assignments :=
    .cons (by decide) (.cons (by decide) (.cons (by decide) .nil))
  have hsound :=
    @values_by_precedence tieredRendering (fun _ => .ok sound) "tier.env" sound flags rfl rfl hflags
  have hfaulty :=
    @values_by_precedence tieredRendering (fun _ => .ok faulty) "tier.env" faulty flags rfl rfl hflags
  refine ⟨hflags, ?_, ?_⟩
  · obtain ⟨values, hvalues, hnames⟩ := hsound.2.2 (by decide)
    refine ⟨values, hvalues, ?_, ?_, ?_⟩
    · exact (hnames "NAME").1 _
        ⟨["NAME=gold", " COLOR ="], "NAME=plat=inum ", [], rfl, by decide, by simp⟩
    · refine ((hnames "SIZE").2 (by decide)).1 _ ⟨["# tier".toList, "NAME=basic".toList, []],
        "  SIZE = a=b ".toList, ["NAME=silver".toList], by decide, by decide, by decide⟩
    · exact ((hnames "OTHER").2 (by decide)).2 (by decide)
  · exact hfaulty.2.1 ["NAME=basic".toList, "# tier".toList, []] " =oops".toList ["NAME".toList]
      (by decide) (by decide) (by decide)

end ResourceTemplate.Command

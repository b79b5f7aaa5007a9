import Mathlib.Data.List.TakeWhile
import ResourceTemplate.Proofs.Dict.Ordered
import ResourceTemplate.Proofs.Text.Occurrence
import ResourceTemplate.Template.Assignment

/-!
# Assignments in texts and files

A text assigns a value to a name when it has an equals sign, and the name is what stands in front of
the first one, less the blanks around it.  Nothing of the value is lost, be it further equals signs
or blanks.

A file is read line by line.  The first line that is neither a remark nor an assignment is told with
its number, which counts all lines in front of it; a file without such a line gives its assignments
in order.  How the lines end makes no difference.
-/

namespace ResourceTemplate

namespace Text

/-- A line without the carriage return that belongs to its ending. -/
def withoutReturn (line : List Char) : List Char :=
  if line.getLast? = some '\r' then line.dropLast else line

/-- The lines of a file, cut at newlines: the carriage return in front of a newline belongs to the
ending, and behind the last newline there is a line only if something stands there. -/
def endedLines : List (List Char) → List (List Char)
  | [] => []
  | [last] => if last = [] then [] else [last]
  | line :: next :: rest => withoutReturn line :: endedLines (next :: rest)

/-- The lines of a file. -/
def fileLines (text : List Char) : List (List Char) := endedLines (splitLines text)

theorem trim_append_blank (cs : List Char) {c : Char} (h : isBlank c = true) :
    trim (cs ++ [c]) = trim cs := by
  unfold trim trimStart
  rw [List.dropWhile_append]
  by_cases hcs : cs.dropWhile isBlank = []
  · simp [hcs, h]
  · simp [hcs, h]

theorem trim_withoutReturn (line : List Char) : trim (withoutReturn line) = trim line := by
  unfold withoutReturn
  split
  next h =>
    obtain ⟨front, rfl⟩ := List.getLast?_eq_some_iff.mp h
    rw [List.dropLast_concat, trim_append_blank front (by decide)]
  next => rfl

end Text

namespace Assignment

/-- A text assigns a value to a name. -/
def Assigns (text : List Char) (name value : String) : Prop :=
  ∃ before, '=' ∉ before ∧ text = before ++ '=' :: value.toList ∧
    Text.trim before = name.toList ∧ name ≠ ""

/-- A text has no equals sign, or nothing but blanks in front of the first. -/
def Unassigned (text : List Char) : Prop :=
  '=' ∉ text ∨ ∃ before after, '=' ∉ before ∧ text = before ++ '=' :: after ∧ Text.trim before = []

theorem read?_of_notMem {text : List Char} (h : '=' ∉ text) : read? text = none := by
  have hrest : text.dropWhile (· ≠ '=') = [] := by
    rw [List.dropWhile_eq_nil_iff]
    exact fun c hc => decide_eq_true fun heq : c = '=' => h (heq ▸ hc)
  simp only [read?, hrest]

theorem read?_append_equals {before : List Char} (h : '=' ∉ before) (after : List Char) :
    read? (before ++ '=' :: after) =
      if Text.trim before = [] then none
      else some ⟨String.ofList (Text.trim before), String.ofList after⟩ := by
  have hname : ∀ c ∈ before, decide (c ≠ '=') = true :=
    fun c hc => decide_eq_true fun heq => h (heq ▸ hc)
  have hspan : (before ++ '=' :: after).takeWhile (fun c => decide (c ≠ '=')) = before ∧
      (before ++ '=' :: after).dropWhile (fun c => decide (c ≠ '=')) = '=' :: after :=
    (Text.span_eq_iff (by decide)).mpr ⟨hname, rfl⟩
  simp only [read?, hspan.1, hspan.2]
  cases Text.trim before <;> simp

theorem exists_append_equals {text : List Char} (h : '=' ∈ text) :
    ∃ before after, '=' ∉ before ∧ text = before ++ '=' :: after := by
  obtain ⟨before, after, rfl, hbefore⟩ := List.eq_append_cons_of_mem h
  exact ⟨before, after, hbefore, rfl⟩

theorem read?_eq_some_iff {text : List Char} {a : Assignment} :
    read? text = some a ↔ Assigns text a.name a.value := by
  constructor
  · intro h
    by_cases hsign : '=' ∈ text
    · obtain ⟨before, after, hbefore, rfl⟩ := exists_append_equals hsign
      rw [read?_append_equals hbefore] at h
      split_ifs at h with hname
      obtain rfl := Option.some.inj h
      exact ⟨before, hbefore, by simp, by simp, by simpa using hname⟩
    · rw [read?_of_notMem hsign] at h
      exact absurd h (by simp)
  · rintro ⟨before, hbefore, rfl, hname, hne⟩
    rw [read?_append_equals hbefore, hname, if_neg (mt String.toList_eq_nil_iff.mp hne)]
    simp

theorem read?_eq_none_iff {text : List Char} : read? text = none ↔ Unassigned text := by
  constructor
  · intro h
    by_cases hsign : '=' ∈ text
    · obtain ⟨before, after, hbefore, rfl⟩ := exists_append_equals hsign
      rw [read?_append_equals hbefore] at h
      split_ifs at h with hname
      exact Or.inr ⟨before, after, hbefore, rfl, hname⟩
    · exact Or.inl hsign
  · rintro (hsign | ⟨before, after, hbefore, rfl, hname⟩)
    · exact read?_of_notMem hsign
    · rw [read?_append_equals hbefore, if_pos hname]

instance (text : List Char) (name value : String) : Decidable (Assigns text name value) :=
  decidable_of_iff (read? text = some ⟨name, value⟩) read?_eq_some_iff

instance (text : List Char) (name : String) : Decidable (∃ value, Assigns text name value) :=
  decidable_of_iff (((read? text).map Assignment.name) = some name) <| by
    simp only [← read?_eq_some_iff (a := ⟨name, _⟩), Option.map_eq_some_iff]
    exact ⟨fun ⟨a, ha, hname⟩ => ⟨a.value, hname ▸ ha⟩, fun ⟨value, h⟩ => ⟨_, h, rfl⟩⟩

instance (text : List Char) : Decidable (Unassigned text) :=
  decidable_of_iff (read? text = none) read?_eq_none_iff

end Assignment

/-- Of several things, the last that gives a name a value gives it this one. -/
def LastGives {α : Type} (gives : α → String → String → Prop) (xs : List α)
    (name value : String) : Prop :=
  ∃ before x after, xs = before ++ x :: after ∧ gives x name value ∧
    ∀ y ∈ after, ¬∃ other, gives y name other

theorem LastGives.exists_mem {α : Type} {gives : α → String → String → Prop} {xs : List α}
    {name value : String} (h : LastGives gives xs name value) : ∃ x ∈ xs, gives x name value := by
  obtain ⟨before, x, after, rfl, hx, -⟩ := h
  exact ⟨x, by simp, hx⟩

theorem lastGives_concat {α : Type} {gives : α → String → String → Prop} {xs : List α} {x : α}
    {name value : String} : LastGives gives (xs ++ [x]) name value ↔
      gives x name value ∨ (¬∃ other, gives x name other) ∧ LastGives gives xs name value := by
  constructor
  · rintro ⟨before, y, after, heq, hy, hafter⟩
    rcases List.eq_nil_or_concat after with rfl | ⟨after, last, rfl⟩
    · obtain ⟨-, hlast⟩ := List.append_inj' heq rfl
      obtain rfl := (List.cons.inj hlast).1
      exact Or.inl hy
    · rw [List.concat_eq_append, ← List.cons_append, ← List.append_assoc] at heq
      obtain ⟨rfl, hlast⟩ := List.append_inj' heq rfl
      obtain rfl := (List.cons.inj hlast).1
      rw [List.concat_eq_append] at hafter
      exact Or.inr ⟨hafter x (by simp), before, y, after, rfl, hy,
        fun z hz => hafter z (List.mem_append_left _ hz)⟩
  · rintro (h | ⟨hx, before, y, after, rfl, hy, hafter⟩)
    · exact ⟨xs, x, [], rfl, h, by simp⟩
    · refine ⟨before, y, after ++ [x], by simp, hy, fun z hz => ?_⟩
      rcases List.mem_append.mp hz with hz | hz
      · exact hafter z hz
      · exact List.mem_singleton.mp hz ▸ hx

namespace Assignment

theorem find?_values_concat (assignments : List Assignment) (a : Assignment) (name : String) :
    (values (assignments ++ [a])).find? name =
      if a.name = name then some a.value else (values assignments).find? name := by
  rw [values, List.map_append, List.map_singleton, Dict.find?_ofList_concat, values]

/-- What is given beside other assignments counts before them. -/
theorem find?_values_append (inside beside : List Assignment) (name : String) :
    (values (inside ++ beside)).find? name =
      ((values beside).find? name).or ((values inside).find? name) := by
  rw [values, List.map_append, Dict.ofList, List.foldl_append, Dict.find?_foldl_insert]
  rfl

/-- In what some things assign, a name has the value that the last of them gives it. -/
theorem find?_values_filterMap {α : Type} {gives : α → String → String → Prop}
    {f : α → Option Assignment} (hgives : ∀ x a, f x = some a ↔ gives x a.name a.value)
    {xs : List α} {name value : String} :
    (values (xs.filterMap f)).find? name = some value ↔ LastGives gives xs name value := by
  induction xs using List.reverseRecOn with
  | nil => simp [values, Dict.ofList, LastGives]
  | append_singleton xs x ih =>
      have hx : ∀ other, gives x name other ↔ f x = some ⟨name, other⟩ :=
        fun other => (hgives x ⟨name, other⟩).symm
      rw [lastGives_concat, List.filterMap_append]
      simp only [hx, List.filterMap_cons, List.filterMap_nil]
      cases f x with
      | none => simpa using ih
      | some a =>
          obtain ⟨other, assigned⟩ := a
          rw [find?_values_concat]
          by_cases hname : other = name
          · simp [hname]
          · simp [hname, ih]

end Assignment

namespace ParameterFile

/-- A line that says nothing: blank, or a comment. -/
def Remark (line : List Char) : Prop := Text.trim line = [] ∨ (Text.trim line).head? = some '#'

/-- A line that says something, but not what is assigned to which name. -/
def Faulty (line : List Char) : Prop := ¬Remark line ∧ Assignment.Unassigned (Text.trim line)

/-- A line assigns a value to a name. -/
def Sets (line : List Char) (name value : String) : Prop :=
  ¬Remark line ∧ Assignment.Assigns (Text.trim line) name value

instance (line : List Char) : Decidable (Remark line) :=
  inferInstanceAs (Decidable (Text.trim line = [] ∨ (Text.trim line).head? = some '#'))

instance (line : List Char) : Decidable (Faulty line) :=
  inferInstanceAs (Decidable (¬Remark line ∧ Assignment.Unassigned (Text.trim line)))

instance (line : List Char) (name value : String) : Decidable (Sets line name value) :=
  inferInstanceAs (Decidable (¬Remark line ∧ Assignment.Assigns (Text.trim line) name value))

instance (line : List Char) (name : String) : Decidable (∃ value, Sets line name value) :=
  decidable_of_iff (¬Remark line ∧ ∃ value, Assignment.Assigns (Text.trim line) name value)
    exists_and_left.symm

/-- The assignment on a line. -/
def assignment? (line : List Char) : Option Assignment :=
  if isRemark (Text.trim line) then none else Assignment.read? (Text.trim line)

theorem isRemark_iff {line : List Char} : isRemark (Text.trim line) = true ↔ Remark line := by
  simp [isRemark, Remark]

theorem assignment?_eq_some_iff {line : List Char} {a : Assignment} :
    assignment? line = some a ↔ Sets line a.name a.value := by
  unfold assignment?
  split
  next h => simp [Sets, isRemark_iff.mp h]
  next h => rw [Assignment.read?_eq_some_iff, Sets, and_iff_right (mt isRemark_iff.mpr h)]

theorem readLines_of_remark {line : List Char} (h : Remark line) (number : Nat)
    (rest : List (List Char)) :
    readLines number (line :: rest) = readLines (number + 1) rest := by
  simp only [readLines, isRemark_iff.mpr h, if_true]

theorem readLines_of_faulty {line : List Char} (h : Faulty line) (number : Nat)
    (rest : List (List Char)) :
    readLines number (line :: rest) = .error ⟨number, String.ofList (Text.trim line)⟩ := by
  have hremark : ¬isRemark (Text.trim line) = true := mt isRemark_iff.mp h.1
  rw [readLines]
  simp only [if_neg hremark, Assignment.read?_eq_none_iff.mpr h.2]

/-- A line that is not at fault adds its assignment, if it has one. -/
theorem readLines_of_not_faulty {line : List Char} (h : ¬Faulty line) (number : Nat)
    (rest : List (List Char)) :
    readLines number (line :: rest) =
      (readLines (number + 1) rest).map ((assignment? line).toList ++ ·) := by
  by_cases hremark : Remark line
  · rw [readLines_of_remark hremark, assignment?, if_pos (isRemark_iff.mpr hremark)]
    cases readLines (number + 1) rest <;> rfl
  · have hnot : ¬isRemark (Text.trim line) = true := mt isRemark_iff.mp hremark
    obtain ⟨a, ha⟩ := Option.ne_none_iff_exists'.mp fun hnone =>
      h ⟨hremark, Assignment.read?_eq_none_iff.mp hnone⟩
    rw [readLines, assignment?]
    simp only [if_neg hnot, ha]
    rfl

/-- Lines without a fault give their assignments. -/
theorem readLines_eq_ok {lines : List (List Char)} (h : ∀ line ∈ lines, ¬Faulty line)
    (number : Nat) : readLines number lines = .ok (lines.filterMap assignment?) := by
  induction lines generalizing number with
  | nil => rfl
  | cons line rest ih =>
      obtain ⟨hline, hrest⟩ := List.forall_mem_cons.mp h
      rw [readLines_of_not_faulty hline, ih hrest]
      cases hassignment : assignment? line <;> simp [Except.map, hassignment]

/-- The first faulty line is told, with a number that counts all lines in front of it. -/
theorem readLines_eq_error {before : List (List Char)} {line : List Char}
    (hbefore : ∀ earlier ∈ before, ¬Faulty earlier) (hline : Faulty line) (after : List (List Char))
    (number : Nat) : readLines number (before ++ line :: after) =
      .error ⟨number + before.length, String.ofList (Text.trim line)⟩ := by
  induction before generalizing number with
  | nil => exact readLines_of_faulty hline number after
  | cons first rest ih =>
      obtain ⟨hfirst, hrest⟩ := List.forall_mem_cons.mp hbefore
      rw [List.cons_append, readLines_of_not_faulty hfirst, ih hrest, List.length_cons]
      simp only [Except.map, Except.error.injEq, BadLine.mk.injEq, and_true]
      omega

/-- How lines end makes no difference. -/
theorem readLines_endedLines (number : Nat) (lines : List (List Char)) :
    readLines number (Text.endedLines lines) = readLines number lines := by
  induction lines using Text.endedLines.induct generalizing number with
  | case1 => rfl
  | case2 => rw [Text.endedLines, if_pos rfl, readLines_of_remark (Or.inl rfl)]; rfl
  | case3 last h => rw [Text.endedLines, if_neg h]
  | case4 line next rest ih =>
      rw [Text.endedLines, readLines, readLines, Text.trim_withoutReturn]
      simp only [ih]

end ParameterFile

end ResourceTemplate

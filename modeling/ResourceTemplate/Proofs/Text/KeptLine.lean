import Mathlib.Data.List.Basic
import ResourceTemplate.Text.Line

/-!
# Lines with their endings

Which characters end a line is up to who reads a text.  Each line keeps the character that ends it,
so the lines put together are the text again; the last one need not have an ending.

Parts are separated in a text when each of them stands behind a line of its own that begins with a
mark, and no other line does.  As long as no line of a part begins with the mark, this fails in one
way only: a part that is followed by another one and does not end with the end of a line takes the
mark behind it into its last line.
-/

namespace ResourceTemplate.Text

variable {isEnd : Char → Bool}

/-- Whether a character is a newline. -/
def isNewline (c : Char) : Bool := c = '\n'

/-- The lines of a text, each with the character that ends it. -/
def keptLines (isEnd : Char → Bool) : List Char → List (List Char)
  | [] => []
  | c :: rest =>
      if isEnd c then [c] :: keptLines isEnd rest else consFirst c (keptLines isEnd rest)

/-- Nothing is left behind the last end of a line. -/
def Ended (isEnd : Char → Bool) (cs : List Char) : Prop := ∀ c ∈ cs.getLast?, isEnd c = true

theorem ended_nil : Ended isEnd [] := fun _ hc => absurd hc (by simp)

theorem Ended.append {first second : List Char} (hfirst : Ended isEnd first)
    (hsecond : Ended isEnd second) : Ended isEnd (first ++ second) := by
  intro c hc
  rw [List.getLast?_append, Option.mem_def, Option.or_eq_some_iff] at hc
  rcases hc with hc | ⟨-, hc⟩
  · exact hsecond c hc
  · exact hfirst c hc

theorem ended_concat_iff {cs : List Char} {c : Char} :
    Ended isEnd (cs ++ [c]) ↔ isEnd c = true := by
  simp [Ended]

/-! ## Lines of a text -/

theorem keptLines_ne_nil {cs : List Char} (h : cs ≠ []) : keptLines isEnd cs ≠ [] := by
  cases cs with
  | nil => exact absurd rfl h
  | cons c rest =>
      simp only [keptLines]
      split
      · simp
      · cases keptLines isEnd rest <;> simp [consFirst]

theorem keptLines_append {first second : List Char} (h : Ended isEnd first) :
    keptLines isEnd (first ++ second) = keptLines isEnd first ++ keptLines isEnd second := by
  induction first with
  | nil => rfl
  | cons c rest ih =>
      by_cases hrest : rest = []
      · -- A single character is a line of its own.
        subst hrest
        have hc : isEnd c = true := h c rfl
        simp [keptLines, hc]
      · have hended : Ended isEnd rest := fun d hd =>
          h d (by rw [List.getLast?_cons, Option.mem_def.mp hd]; rfl)
        simp only [List.cons_append, keptLines, ih hended]
        split
        · rfl
        · exact consFirst_append c _ _ (keptLines_ne_nil hrest)

/-- Characters that end no line are put in front of the first line of what follows. -/
theorem keptLines_append_of_forall {before : List Char} (hbefore : ∀ c ∈ before, isEnd c = false)
    (behind : List Char) :
    keptLines isEnd (before ++ behind) = before.foldr consFirst (keptLines isEnd behind) := by
  induction before with
  | nil => rfl
  | cons c rest ih =>
      have hc : ¬isEnd c = true := by simp [hbefore c (by simp)]
      simp only [List.cons_append, keptLines, if_neg hc, List.foldr_cons,
        ih fun d hd => hbefore d (List.mem_cons_of_mem c hd)]

theorem foldr_consFirst_cons (before line : List Char) (rest : List (List Char)) :
    before.foldr consFirst (line :: rest) = (before ++ line) :: rest := by
  induction before with
  | nil => rfl
  | cons c before ih => rw [List.foldr_cons, ih]; rfl

theorem foldr_consFirst_nil {before : List Char} (h : before ≠ []) :
    before.foldr consFirst [] = [before] := by
  induction before with
  | nil => exact absurd rfl h
  | cons c rest ih =>
      by_cases hrest : rest = []
      · rw [hrest]
        rfl
      · rw [List.foldr_cons, ih hrest]
        rfl

/-- A line goes on behind characters that end none, or stands behind them. -/
theorem prefix_or_mem_keptLines {before behind line : List Char} (hne : before ≠ [])
    (hbefore : ∀ c ∈ before, isEnd c = false) (h : line ∈ keptLines isEnd (before ++ behind)) :
    before <+: line ∨ line ∈ keptLines isEnd behind := by
  rw [keptLines_append_of_forall hbefore] at h
  cases hlines : keptLines isEnd behind with
  | nil =>
      rw [hlines, foldr_consFirst_nil hne, List.mem_singleton] at h
      exact Or.inl (h ▸ List.prefix_rfl)
  | cons first rest =>
      rw [hlines, foldr_consFirst_cons, List.mem_cons] at h
      rcases h with rfl | h
      · exact Or.inl (List.prefix_append before first)
      · exact Or.inr (List.mem_cons_of_mem first h)

theorem keptLines_line {text : List Char} {ending : Char} (htext : ∀ c ∈ text, isEnd c = false)
    (hending : isEnd ending = true) : keptLines isEnd (text ++ [ending]) = [text ++ [ending]] := by
  rw [keptLines_append_of_forall htext, keptLines, if_pos hending, foldr_consFirst_cons]
  rfl

/-- Only the last line may be without an ending. -/
theorem getLast?_of_mem_keptLines {cs line : List Char} (h : line ∈ (keptLines isEnd cs).dropLast) :
    ∃ ending, line.getLast? = some ending ∧ isEnd ending = true := by
  induction cs generalizing line with
  | nil => simp [keptLines] at h
  | cons c rest ih =>
      by_cases hc : isEnd c = true
      · rw [keptLines, if_pos hc] at h
        by_cases hrest : keptLines isEnd rest = []
        · simp [hrest] at h
        · rw [List.dropLast_cons_of_ne_nil hrest, List.mem_cons] at h
          rcases h with rfl | h
          · exact ⟨c, rfl, hc⟩
          · exact ih h
      · -- The character joins the first line, which stays the last one if it is the only one.
        rw [keptLines, if_neg hc] at h
        rcases hlines : keptLines isEnd rest with _ | ⟨first, _ | ⟨second, others⟩⟩
        · simp [hlines, consFirst] at h
        · simp [hlines, consFirst] at h
        · rw [hlines] at ih h
          rw [consFirst, List.dropLast_cons_cons, List.mem_cons] at h
          rcases h with rfl | h
          · obtain ⟨ending, hending, hend⟩ := ih (List.mem_cons_self (a := first))
            exact ⟨ending, by rw [List.getLast?_cons, hending]; rfl, hend⟩
          · exact ih (List.mem_cons_of_mem first h)

/-! ## Parts between marks -/

/-- The lines of a text that begin with a mark. -/
def markedLines (isEnd : Char → Bool) (mark text : List Char) : List (List Char) :=
  (keptLines isEnd text).filter (mark <+: ·)

/-- What stands in front of the first line that begins with a mark, and behind each of them. -/
def partsAround (isEnd : Char → Bool) (mark text : List Char) : List (List Char) :=
  ((keptLines isEnd text).splitOnP (mark <+: ·)).map List.flatten

/-- The lines that begin with a mark are copies of one separator, one before each part, and a text
that is cut at them falls into the parts. -/
structure Separates (isEnd : Char → Bool) (mark separator : List Char) (parts : List (List Char))
    (text : List Char) : Prop where
  marks : markedLines isEnd mark text = List.replicate parts.length separator
  parts : partsAround isEnd mark text = [] :: parts

instance (isEnd : Char → Bool) (mark separator : List Char) (parts : List (List Char))
    (text : List Char) : Decidable (Separates isEnd mark separator parts text) :=
  decidable_of_iff (markedLines isEnd mark text = List.replicate parts.length separator ∧
      partsAround isEnd mark text = [] :: parts)
    ⟨fun ⟨hmarks, hparts⟩ => ⟨hmarks, hparts⟩, fun ⟨hmarks, hparts⟩ => ⟨hmarks, hparts⟩⟩

section

variable {mark separator : List Char} {parts : List (List Char)}

theorem flatten_consFirst (c : Char) (lines : List (List Char)) :
    (consFirst c lines).flatten = c :: lines.flatten := by
  cases lines <;> rfl

theorem flatten_keptLines (cs : List Char) : (keptLines isEnd cs).flatten = cs := by
  induction cs with
  | nil => rfl
  | cons c rest ih =>
      simp only [keptLines]
      split
      · simp [ih]
      · rw [flatten_consFirst, ih]

/-- What stands in front of a line that is cut out has come to the end of a line. -/
theorem ended_of_mem_splitOnP {p : List Char → Bool} {lines : List (List Char)}
    (hlines : ∀ line ∈ lines.dropLast, Ended isEnd line) {group : List (List Char)}
    (h : group ∈ (lines.splitOnP p).dropLast) : Ended isEnd group.flatten := by
  induction lines generalizing group with
  | nil => simp at h
  | cons line rest ih =>
      have hrest : ∀ line ∈ rest.dropLast, Ended isEnd line := fun later hlater =>
        hlines later <| by
          rw [List.dropLast_cons_of_ne_nil (List.ne_nil_of_mem (List.dropLast_subset rest hlater))]
          exact List.mem_cons_of_mem line hlater
      obtain ⟨first, others, hgroups⟩ := List.exists_cons_of_ne_nil (List.splitOnP_ne_nil p rest)
      rw [List.splitOnP_cons_eq_if_modifyHead, hgroups] at h
      rw [hgroups] at ih
      split at h
      · rw [List.dropLast_cons_cons, List.mem_cons] at h
        rcases h with rfl | h
        · exact ended_nil
        · exact ih hrest h
      · cases others with
        | nil => simp at h
        | cons second others =>
            rw [List.modifyHead_cons, List.dropLast_cons_cons, List.mem_cons] at h
            rcases h with rfl | h
            · -- Something is cut out behind this line, so it is not the last one.
              have hline : Ended isEnd line := by
                cases rest with
                | nil => simp at hgroups
                | cons later rest => exact hlines line (by simp)
              exact hline.append (ih hrest List.mem_cons_self)
            · exact ih hrest (List.mem_cons_of_mem first h)

theorem keptLines_flatMap (hseparator : keptLines isEnd separator = [separator])
    (hended : Ended isEnd separator) (hparts : ∀ part ∈ parts.dropLast, Ended isEnd part) :
    keptLines isEnd (parts.flatMap (separator ++ ·)) =
      parts.flatMap fun part => separator :: keptLines isEnd part := by
  induction parts with
  | nil => rfl
  | cons part rest ih =>
      rw [List.flatMap_cons, List.flatMap_cons]
      cases rest with
      | nil => simp [keptLines_append hended, hseparator]
      | cons next others =>
          rw [List.dropLast_cons_cons, List.forall_mem_cons] at hparts
          rw [keptLines_append (hended.append hparts.1), keptLines_append hended, hseparator,
            ih hparts.2]
          rfl

theorem filter_flatMap {p : List Char → Bool} (hseparator : p separator = true)
    {lines : List Char → List (List Char)}
    (hlines : ∀ part ∈ parts, ∀ line ∈ lines part, p line = false) :
    (parts.flatMap fun part => separator :: lines part).filter p =
      List.replicate parts.length separator := by
  induction parts with
  | nil => rfl
  | cons part rest ih =>
      rw [List.forall_mem_cons] at hlines
      have hpart : (lines part).filter p = [] :=
        List.filter_eq_nil_iff.mpr fun line hline => by simp [hlines.1 line hline]
      rw [List.flatMap_cons, List.filter_append, List.filter_cons_of_pos hseparator, hpart,
        ih hlines.2]
      rfl

theorem splitOnP_flatMap {p : List Char → Bool} (hseparator : p separator = true)
    {lines : List Char → List (List Char)}
    (hlines : ∀ part ∈ parts, ∀ line ∈ lines part, p line = false)
    {before : List (List Char)} (hbefore : ∀ line ∈ before, p line = false) :
    (before ++ parts.flatMap fun part => separator :: lines part).splitOnP p =
      before :: parts.map lines := by
  induction parts generalizing before with
  | nil => simpa using List.splitOnP_eq_singleton hbefore
  | cons part rest ih =>
      rw [List.forall_mem_cons] at hlines
      rw [List.flatMap_cons, List.cons_append, List.splitOnP_append_cons _ _ hseparator,
        List.splitOnP_eq_singleton hbefore, ih hlines.2 hlines.1]
      rfl

/-- Parts behind separators can be told apart exactly when each of them that is followed by another
one ends with the end of a line. -/
theorem separates_iff (hseparator : keptLines isEnd separator = [separator])
    (hended : Ended isEnd separator)
    (hmark : mark <+: separator)
    (hparts : ∀ part ∈ parts, ∀ line ∈ keptLines isEnd part, ¬mark <+: line) :
    Separates isEnd mark separator parts (parts.flatMap (separator ++ ·)) ↔
      ∀ part ∈ parts.dropLast, Ended isEnd part := by
  constructor
  · -- A part in front of another one is made of lines that are not the last.
    intro h part hpart
    have hcut : part ∈ (partsAround isEnd mark (parts.flatMap (separator ++ ·))).dropLast := by
      rw [h.parts,
        List.dropLast_cons_of_ne_nil (List.ne_nil_of_mem ((List.dropLast_subset parts) hpart))]
      exact List.mem_cons_of_mem [] hpart
    rw [partsAround, ← List.map_dropLast, List.mem_map] at hcut
    obtain ⟨group, hgroup, rfl⟩ := hcut
    refine ended_of_mem_splitOnP (fun line hline c hc => ?_) hgroup
    obtain ⟨ending, hending, hend⟩ := getLast?_of_mem_keptLines hline
    exact Option.some.inj (hending.symm.trans hc) ▸ hend
  · -- The text falls into the separators and the lines of the parts.
    intro h
    have hlines := keptLines_flatMap hseparator hended h
    have hunmarked : ∀ part ∈ parts, ∀ line ∈ keptLines isEnd part, decide (mark <+: line) = false :=
      fun part hpart line hline => decide_eq_false (hparts part hpart line hline)
    constructor
    · rw [markedLines, hlines, filter_flatMap (decide_eq_true hmark) hunmarked]
    · rw [partsAround, hlines]
      have hcut := splitOnP_flatMap (decide_eq_true hmark) hunmarked (List.forall_mem_nil _)
      rw [List.nil_append] at hcut
      rw [hcut, List.map_cons, List.flatten_nil, List.map_map]
      exact congrArg _ ((List.map_congr_left fun part _ => flatten_keptLines part).trans parts.map_id')

end

end ResourceTemplate.Text

/-!
# Lines

A text is cut into lines at its newlines, so there is one line more than there are newlines.
-/

namespace ResourceTemplate.Text

/-- Put a character in front of the first of several lines. -/
def consFirst (c : Char) : List (List Char) → List (List Char)
  | [] => [[c]]
  | first :: rest => (c :: first) :: rest

/-- The lines of a text. -/
def splitLines : List Char → List (List Char)
  | [] => [[]]
  | c :: rest => if c = '\n' then [] :: splitLines rest else consFirst c (splitLines rest)

theorem splitLines_ne_nil (cs : List Char) : splitLines cs ≠ [] := by
  cases cs with
  | nil => simp [splitLines]
  | cons c rest =>
      simp only [splitLines]
      split
      · simp
      · cases splitLines rest <;> simp [consFirst]

theorem consFirst_append (c : Char) (first second : List (List Char)) (h : first ≠ []) :
    consFirst c (first ++ second) = consFirst c first ++ second := by
  cases first with
  | nil => exact absurd rfl h
  | cons line rest => rfl

/-- A newline ends a line, whatever stands before it and after it. -/
theorem splitLines_append_newline (before after : List Char) :
    splitLines (before ++ '\n' :: after) = splitLines before ++ splitLines after := by
  induction before with
  | nil => simp [splitLines]
  | cons c rest ih =>
      simp only [List.cons_append, splitLines, ih]
      split
      · rfl
      · exact consFirst_append c _ _ (splitLines_ne_nil rest)

end ResourceTemplate.Text

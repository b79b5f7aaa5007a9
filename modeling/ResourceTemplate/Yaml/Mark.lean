import ResourceTemplate.Yaml.Character

/-!
# Places in a text

Lines and columns are counted from zero, and columns in characters.  Before a text is read, its line
breaks are brought to one form, so that every break is one character.
-/

namespace ResourceTemplate.Yaml

/-- A place in a text. -/
structure Mark where
  /-- The number of characters before the place. -/
  index : Nat
  line : Nat
  column : Nat
deriving DecidableEq

namespace Mark

/-- The start of a text. -/
def start : Mark := ⟨0, 0, 0⟩

/-- The place behind a character. -/
def after (m : Mark) (c : Char) : Mark :=
  if isBreak c then ⟨m.index + 1, m.line + 1, 0⟩ else ⟨m.index + 1, m.line, m.column + 1⟩

/-- The place behind characters. -/
def afterAll (m : Mark) (cs : List Char) : Mark := cs.foldl after m

/-- Whether a place is the first of its text. -/
def isOrigin (m : Mark) : Bool := m.line = 0 && m.column = 0

/-- How messages tell a place. -/
def text (m : Mark) : String := s!"line {m.line + 1} column {m.column + 1}"

end Mark

/-- A text in which every line break is one character: the separators of lines and of paragraphs are
kept, all other breaks become newlines. -/
def normalizeBreaks : List Char → List Char
  | '\r' :: '\n' :: rest => '\n' :: normalizeBreaks rest
  | c :: rest => (if c = '\r' ∨ c = '\u0085' then '\n' else c) :: normalizeBreaks rest
  | [] => []

/-- A place in a text together with what is still to be read. -/
structure Cursor where
  mark : Mark
  rest : List Char

namespace Cursor

/-- Go on behind one character. -/
def next (c : Cursor) : Cursor :=
  match c.rest with
  | [] => c
  | first :: rest => ⟨c.mark.after first, rest⟩

/-- Go on behind so many characters. -/
def skip (c : Cursor) (n : Nat) : Cursor :=
  ⟨c.mark.afterAll (c.rest.take n), c.rest.drop n⟩

/-- The characters that satisfy a test, and the place behind them. -/
def span (p : Char → Bool) (c : Cursor) : List Char × Cursor :=
  let taken := c.rest.takeWhile p
  (taken, ⟨c.mark.afterAll taken, c.rest.dropWhile p⟩)

/-- Go on behind the characters that satisfy a test. -/
def skipWhile (p : Char → Bool) (c : Cursor) : Cursor := (c.span p).2

theorem span_append (p : Char → Bool) (c : Cursor) :
    (c.span p).1 ++ (c.span p).2.rest = c.rest := by
  simp [span, List.takeWhile_append_dropWhile]

end Cursor

/-- Whether nothing or spacing comes next. -/
def atSpacing : List Char → Bool
  | [] => true
  | c :: _ => isSpacing c

/-- Whether nothing or a line break comes next. -/
def atLineEnd : List Char → Bool
  | [] => true
  | c :: _ => isBreak c

/-- Whether a text begins with three equal characters and spacing behind them. -/
def beginsTriple (c : Char) : List Char → Bool
  | x :: y :: z :: rest => x = c && y = c && z = c && atSpacing rest
  | _ => false

/-- Whether the mark of the start or the end of a document stands at a place. -/
def isDocumentMark (m : Mark) (rest : List Char) : Bool :=
  m.column = 0 && (beginsTriple '-' rest || beginsTriple '.' rest)

end ResourceTemplate.Yaml

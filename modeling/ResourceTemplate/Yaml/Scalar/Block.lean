import ResourceTemplate.Yaml.Fault

/-!
# Block scalars

The text of a block scalar stands in lines of a common indentation, which its header gives or its
first line sets.  A literal text keeps its lines; in a folded one a single break between two lines
that do not begin with a blank becomes a space.  The header also says what is kept of the breaks at
the end: all, the first, or none.
-/

namespace ResourceTemplate.Yaml

/-- What is kept of the breaks at the end of a block scalar. -/
inductive Chomping where
  | clip
  | strip
  | keep
deriving DecidableEq

/-- How the text of a block scalar is read. -/
structure BlockForm where
  literal : Bool
  chomping : Chomping
  /-- The least indentation that the text may have. -/
  least : Nat
  start : Mark

/-- A block scalar as far as it has been read; lists are in reverse. -/
structure BlockDraft where
  done : List Char
  /-- The break behind the last line. -/
  leading : List Char
  /-- The breaks of the empty lines that followed it. -/
  trailing : List Char
  /-- Whether the last line began with a blank. -/
  blankLine : Bool
  /-- The indentation, once it is known. -/
  indentation? : Option Nat
  /-- The greatest column that was reached before it was known. -/
  widest : Nat
  /-- Whether the next character belongs to a line. -/
  inLine : Bool

namespace BlockDraft

/-- A draft of which nothing has been read. -/
def empty (indentation? : Option Nat) : BlockDraft := ⟨[], [], [], false, indentation?, 0, false⟩

/-- Whether a space at a column still belongs to the indentation. -/
def isIndentation (d : BlockDraft) (column : Nat) : Bool :=
  match d.indentation? with
  | none => true
  | some n => column < n

/-- The indentation of a draft, known or set by the columns that were reached. -/
def settledIndentation (d : BlockDraft) (form : BlockForm) : Nat :=
  d.indentation?.getD (max d.widest (max form.least 1))

/-- The breaks in front of a line that begins with a blank or not. -/
def joint (d : BlockDraft) (literal blank : Bool) : List Char :=
  if !literal && d.leading = ['\n'] && !d.blankLine && !blank then
    if d.trailing.isEmpty then [' '] else d.trailing
  else d.trailing ++ d.leading

/-- Begin a line with its first character. -/
def beginLine (d : BlockDraft) (form : BlockForm) (c : Char) : BlockDraft :=
  let blank := isBlank c
  { d with
    done := c :: d.joint form.literal blank ++ d.done
    leading := []
    trailing := []
    blankLine := blank
    indentation? := some (d.settledIndentation form)
    inLine := true }

/-- The text of a draft. -/
def text (d : BlockDraft) (form : BlockForm) : String :=
  let kept := match form.chomping with
    | .strip => []
    | .clip => d.leading
    | .keep => d.trailing ++ d.leading
  String.ofList (kept ++ d.done).reverse

/-- Read the lines of a block scalar.  What is returned with the text is the place where reading
goes on. -/
def read (form : BlockForm) (d : BlockDraft) (m : Mark) : List Char → Except Fault (String × Cursor)
  | [] => .ok (d.text form, ⟨m, []⟩)
  | c :: rest =>
      if d.inLine then
        if isBreak c then read form { d with leading := [c], inLine := false } (m.after c) rest
        else read form { d with done := c :: d.done } (m.after c) rest
      else
        let d := { d with widest := max d.widest m.column }
        if c = ' ' && d.isIndentation m.column then read form d (m.after c) rest
        else if c = '\t' && d.isIndentation m.column then
          .error (.within .blockScalar form.start .tabIndentation m)
        else if isBreak c then
          read form { d with trailing := c :: d.trailing } (m.after c) rest
        else if m.column = d.settledIndentation form then
          read form (d.beginLine form c) (m.after c) rest
        else .ok (d.text form, ⟨m, c :: rest⟩)

end BlockDraft

/-- What the header of a block scalar says about its end. -/
def chomping? (c : Char) : Option Chomping :=
  if c = '+' then some .keep else if c = '-' then some .strip else none

/-- A digit that may give an indentation. -/
def indentationDigit? (start : Mark) (c : Cursor) : Except Fault (Option Nat × Cursor) :=
  match c.rest with
  | [] => .ok (none, c)
  | d :: _ =>
      if d = '0' then .error (.within .blockScalar start .zeroIndentation c.mark)
      else if d.isDigit then .ok (some (d.toNat - '0'.toNat), c.next)
      else .ok (none, c)

/-- Read the header of a block scalar: the two hints in either order. -/
def readBlockHeader (start : Mark) (c : Cursor) :
    Except Fault (Chomping × Option Nat × Cursor) :=
  match c.rest.head?.bind chomping? with
  | some chomping => (indentationDigit? start c.next).map fun read => (chomping, read.1, read.2)
  | none =>
      match indentationDigit? start c with
      | .error fault => .error fault
      | .ok (none, c) => .ok (.clip, none, c)
      | .ok (some digit, c) =>
          match c.rest.head?.bind chomping? with
          | some chomping => .ok (chomping, some digit, c.next)
          | none => .ok (.clip, some digit, c)

/-- The place behind blanks, a comment and the break that ends the line. -/
def endLine (context : Context) (start : Mark) (c : Cursor) : Except Fault Cursor :=
  let c := c.skipWhile isBlank
  let c := if c.rest.head? = some '#' then c.skipWhile (!isBreak ·) else c
  if atLineEnd c.rest then .ok c.next else .error (.within context start .unfinishedLine c.mark)

/-- Read a block scalar behind its indicator, inside something of an indentation. -/
def readBlockScalar (literal : Bool) (outer : Int) (start : Mark) (c : Cursor) :
    Except Fault (String × Cursor) :=
  match readBlockHeader start c with
  | .error fault => .error fault
  | .ok (chomping, digit?, c) =>
      match endLine .blockScalar start c with
      | .error fault => .error fault
      | .ok c =>
          let form : BlockForm := ⟨literal, chomping, (outer + 1).toNat, start⟩
          BlockDraft.read form (.empty (digit?.map (outer.toNat + ·))) c.mark c.rest

end ResourceTemplate.Yaml

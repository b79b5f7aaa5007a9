import ResourceTemplate.Yaml.Mark

/-!
# Folding

Between two words of a plain or quoted scalar stands spacing.  Blanks on one line are kept.  A
single line break becomes a space, and of several the first is dropped; the separators of lines and
of paragraphs are always kept.
-/

namespace ResourceTemplate.Yaml

/-- The spacing between two words, as far as it has been read; lists are in reverse. -/
structure Gap where
  blanks : List Char
  /-- The first break; it is empty when it was escaped. -/
  leading? : Option (List Char)
  trailing : List Char

namespace Gap

/-- Spacing of which nothing has been read. -/
def empty : Gap := ⟨[], none, []⟩

/-- Spacing that begins with an escaped break. -/
def escaped : Gap := ⟨[], some [], []⟩

/-- Whether a break has been met. -/
def isBroken (g : Gap) : Bool := g.leading?.isSome

/-- Add a blank or a break. -/
def add (g : Gap) (c : Char) : Gap :=
  match g.leading?, isBreak c with
  | none, false => { g with blanks := c :: g.blanks }
  | none, true => ⟨[], some [c], []⟩
  | some _, false => g
  | some _, true => { g with trailing := c :: g.trailing }

/-- What stands for the spacing between the words. -/
def fold (g : Gap) : List Char :=
  match g.leading? with
  | none => g.blanks.reverse
  | some ['\n'] => if g.trailing.isEmpty then [' '] else g.trailing.reverse
  | some leading => leading ++ g.trailing.reverse

theorem fold_blank (c : Char) (h : isBreak c = false) : (empty.add c).fold = [c] := by
  simp [add, h, empty, fold]

theorem fold_newline : (empty.add '\n').fold = [' '] := by
  rfl

end Gap

end ResourceTemplate.Yaml

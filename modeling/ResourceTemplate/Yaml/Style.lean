import ResourceTemplate.Yaml.Character
import ResourceTemplate.Yaml.Reading

/-!
# Styles of scalars

A text is written plain when that reads back as the same text.  A text that could be taken for
something else is quoted, one of several lines is written literally, and one that neither allows is
written with escapes.
-/

namespace ResourceTemplate.Yaml

/-- How a scalar is written. -/
inductive Style where
  | plain
  | singleQuoted
  | doubleQuoted
  | literal
  | folded
deriving DecidableEq

namespace Style

/-- Whether two neighbours in a text satisfy two tests. -/
def anyPair (p q : Char → Bool) : List Char → Bool
  | a :: b :: rest => (p a && q b) || anyPair p q (b :: rest)
  | _ => false

/-- Whether a character is a space. -/
def isSpace (c : Char) : Bool := c = ' '

/-- Whether a space stands directly before the end of a line. -/
def hasSpaceBreak (cs : List Char) : Bool := anyPair isSpace isBreak cs

/-- Whether a line begins with a space. -/
def hasBreakSpace (cs : List Char) : Bool := anyPair isBreak isSpace cs

/-- Whether a text has a character that cannot be shown as it is. -/
def hasSpecial (cs : List Char) : Bool := cs.any (!isPrintable ·)

/-- Whether a text has several lines. -/
def isMultiline (cs : List Char) : Bool := cs.any isBreak

/-- Whether the first or the last character of a text satisfies a test. -/
def atEnds (p : Char → Bool) (cs : List Char) : Bool := cs.head?.any p || cs.getLast?.any p

/-- The characters that no plain text begins with. -/
def leadingIndicators : List Char :=
  ['#', ',', '[', ']', '\x7b', '\x7d', '&', '*', '!', '|', '>', '\'', '"', '%', '@', '\x60']

/-- Whether nothing or spacing comes first. -/
def beginsSpaced : List Char → Bool
  | [] => true
  | c :: _ => isSpacing c

/-- Whether the start of a text would be taken for something else than text. -/
def hasLeadingIndicator : List Char → Bool
  | '-' :: '-' :: '-' :: _ => true
  | '.' :: '.' :: '.' :: _ => true
  | c :: rest =>
      leadingIndicators.contains c || ((c = '-' || c = '?' || c = ':') && beginsSpaced rest)
  | [] => false

/-- Whether a text has the end of a key or the start of a comment in it. -/
def hasInnerIndicator : List Char → Bool
  | [] => false
  | ':' :: [] => true
  | a :: b :: rest =>
      (a = ':' && isSpacing b) || (isSpacing a && b = '#') || hasInnerIndicator (b :: rest)
  | [_] => false

/-- Whether a text may be written plain. -/
def plainAllowed (cs : List Char) : Bool :=
  !(atEnds isSpacing cs || isMultiline cs || hasSpecial cs || hasLeadingIndicator cs ||
    hasInnerIndicator cs)

/-- Whether a text may be written between single quotes. -/
def singleQuotedAllowed (cs : List Char) : Bool :=
  !(hasBreakSpace cs || hasSpaceBreak cs || hasSpecial cs)

/-- Whether a text may be written literally. -/
def literalAllowed (cs : List Char) : Bool :=
  !((cs.getLast?.any isSpace) || hasSpaceBreak cs || hasSpecial cs)

/-- How a text is written. -/
def ofText (s : String) : Style :=
  let cs := s.toList
  if cs.contains '\n' then if literalAllowed cs then literal else doubleQuoted
  else if !Reading.isAmbiguous s && plainAllowed cs then plain
  else if singleQuotedAllowed cs then singleQuoted
  else doubleQuoted

end Style

end ResourceTemplate.Yaml

/-!
# Characters of YAML texts

Which characters may stand in a text at all, which of them end a line, and which can be shown as
they are when a text is written.
-/

namespace ResourceTemplate.Yaml

/-- Whether a character ends a line. -/
def isBreak (c : Char) : Bool :=
  c = '\n' || c = '\r' || c = '\u0085' || c = '\u2028' || c = '\u2029'

/-- Whether a character is a space or a tabulator. -/
def isBlank (c : Char) : Bool := c = ' ' || c = '\t'

/-- Whether a character is blank or ends a line. -/
def isSpacing (c : Char) : Bool := isBlank c || isBreak c

/-- Whether a code point beyond ASCII is a character for general use. -/
def isWideText (n : Nat) : Bool :=
  (0xA0 ≤ n && n ≤ 0xD7FF) || (0xE000 ≤ n && n ≤ 0xFFFD) || 0x10000 ≤ n

/-- Whether a character may stand in a text that is read. -/
def isAllowed (c : Char) : Bool :=
  c = '\t' || c = '\n' || c = '\r' || c = '\u0085' || (' ' ≤ c && c ≤ '~') || isWideText c.toNat

/-- The mark that may stand at the start of a text. -/
def byteOrderMark : Char := '\ufeff'

/-- Whether a character is shown as it is when a text is written. -/
def isPrintable (c : Char) : Bool :=
  c = '\n' || (' ' ≤ c && c ≤ '~') || (isWideText c.toNat && c ≠ byteOrderMark)

/-- Whether a character may stand in the name of an anchor, a directive or a tag handle. -/
def isNameChar (c : Char) : Bool := c.isAlphanum || c = '_' || c = '-'

/-- Whether a character may stand in a tag as it is. -/
def isTagChar (c : Char) : Bool :=
  isNameChar c || [';', '/', '?', ':', '@', '&', '=', '+', '$', '.', '%', '!', '~', '*', '\'', '(',
    ')'].contains c

/-- Whether a character is one of the brackets and commas of flow collections. -/
def isFlowIndicator (c : Char) : Bool :=
  c = ',' || c = '[' || c = ']' || c = '\x7b' || c = '\x7d'

theorem isBreak_newline : isBreak '\n' = true := rfl

end ResourceTemplate.Yaml

import ResourceTemplate.Json.Printer
import ResourceTemplate.Yaml.Style

/-!
# Writing YAML

A value is written in block style, as lines that stand at the margin; whoever contains it moves them
to the right.  Only line breaks other than the newline may stand inside a text, and what follows one
of them is moved as well, so a line keeps the character that ends it.

Nothing that is written for a text can be taken for the mark between two documents, since a line
that is not moved to the right begins with a key, a quote, or an indicator followed by a space.
-/

namespace ResourceTemplate.Yaml

/-- A line with the break that ends it. -/
structure Line where
  text : List Char
  ending : Char
deriving DecidableEq

namespace Line

/-- A line that ends as usual. -/
def ofText (text : List Char) : Line := ⟨text, '\n'⟩

/-- The characters of a line. -/
def toList (l : Line) : List Char := l.text ++ [l.ending]

/-- A line moved to the right, unless it is empty. -/
def moved (l : Line) : Line :=
  match l.text with
  | [] => l
  | text => { l with text := ' ' :: ' ' :: text }

/-- A text cut behind its breaks.  The characters of the current line are given in reverse. -/
def cut (current : List Char) : List Char → List Line × List Char
  | [] => ([], current.reverse)
  | c :: rest =>
      if isBreak c then
        let cutRest := cut [] rest
        (⟨current.reverse, c⟩ :: cutRest.1, cutRest.2)
      else cut (c :: current) rest

end Line

/-- Lines of which the first has something put before it and the others are moved to the right. -/
def hang (before : List Char) : List Line → List Line
  | [] => []
  | first :: rest => { first with text := before ++ first.text } :: rest.map Line.moved

/-! ## Scalars -/

/-- The longest text, in bytes, that may be a key without being marked as one. -/
def simpleKeyLimit : Nat := 128

/-- Whether a text may be a key without being marked as one. -/
def isSimpleKey (s : String) : Bool :=
  !Style.isMultiline s.toList && s.utf8ByteSize ≤ simpleKeyLimit

/-- The letter of the escape for a character that has one of its own. -/
def escapeLetter? (c : Char) : Option Char :=
  match c.toNat with
  | 0x00 => some '0'
  | 0x07 => some 'a'
  | 0x08 => some 'b'
  | 0x09 => some 't'
  | 0x0A => some 'n'
  | 0x0B => some 'v'
  | 0x0C => some 'f'
  | 0x0D => some 'r'
  | 0x1B => some 'e'
  | 0x22 => some '"'
  | 0x5C => some '\\'
  | 0x85 => some 'N'
  | 0xA0 => some '_'
  | 0x2028 => some 'L'
  | 0x2029 => some 'P'
  | _ => none

/-- A character as it stands between double quotes. -/
def escapeChar (c : Char) : List Char :=
  if isPrintable c && !isBreak c && c ≠ '"' && c ≠ '\\' then [c]
  else
    match escapeLetter? c with
    | some letter => ['\\', letter]
    | none =>
        if c.toNat < 0x100 then '\\' :: 'x' :: Text.upperHex 2 c.toNat
        else if c.toNat < 0x10000 then '\\' :: 'u' :: Text.upperHex 4 c.toNat
        else '\\' :: 'U' :: Text.upperHex 8 c.toNat

/-- A character as it stands between single quotes. -/
def doubleQuote (c : Char) : List Char := if c = '\'' then ['\'', '\''] else [c]

/-- The lines of a text between single quotes. -/
def singleQuotedLines (cs : List Char) : List Line :=
  let cut := Line.cut [] (('\'' :: cs.flatMap doubleQuote) ++ ['\''])
  cut.1 ++ [Line.ofText cut.2]

/-- What the header of a literal text says about the indentation, which is needed when the text
begins with a space or an empty line. -/
def indentationHint (cs : List Char) : List Char :=
  if cs.head?.any fun c => c = ' ' || isBreak c then ['2'] else []

/-- What the header of a literal text says about its end: whether no break ends it, or more than
one. -/
def endingHint (cs : List Char) : List Char :=
  match cs.reverse with
  | [] => ['-']
  | [c] => if isBreak c then ['+'] else ['-']
  | c :: d :: _ => if !isBreak c then ['-'] else if isBreak d then ['+'] else []

/-- The lines of a literal text. -/
def literalLines (cs : List Char) : List Line :=
  let cut := Line.cut [] cs
  Line.ofText ('|' :: indentationHint cs ++ endingHint cs) ::
    cut.1 ++ (if cut.2.isEmpty then [] else [Line.ofText cut.2])

/-- The lines of a text. -/
def textLines (s : String) : List Line :=
  let cs := s.toList
  match Style.ofText s with
  | .plain => [Line.ofText cs]
  | .singleQuoted => singleQuotedLines cs
  | .doubleQuoted => [Line.ofText ('"' :: cs.flatMap escapeChar ++ ['"'])]
  | _ => literalLines cs

/-- The text of a key that needs no mark. -/
def simpleKeyText (s : String) : List Char :=
  ((textLines s).map Line.text).flatten

/-! ## Values -/

/-- Doubles far from the unit have an exponent without a plus. -/
def layout : Binary64.Layout := ⟨true, false⟩

/-- Put the lines of a value behind its key. -/
def memberLines (key : String) (value : Json) (lines : List Line) : List Line :=
  if isSimpleKey key then
    let name := simpleKeyText key ++ [':']
    match value with
    | .array (_ :: _) => Line.ofText name :: lines
    | .object (_ :: _) => Line.ofText name :: lines.map Line.moved
    | _ => hang (name ++ [' ']) lines
  else hang ['?', ' '] (textLines key) ++ hang [':', ' '] lines

mutual

/-- The lines of a value. -/
def lines : Json → List Line
  | .array [] => [Line.ofText ['[', ']']]
  | .object [] => [Line.ofText ['\x7b', '\x7d']]
  | .array items => itemLines items
  | .object members => entryLines members
  | .string s => textLines s
  | .number n => [Line.ofText (n.text layout).toList]
  | .bool b => [Line.ofText (if b then "true" else "false").toList]
  | .null => [Line.ofText "null".toList]

/-- The lines of items. -/
def itemLines : List Json → List Line
  | [] => []
  | item :: rest => hang ['-', ' '] (lines item) ++ itemLines rest

/-- The lines of members. -/
def entryLines : List (String × Json) → List Line
  | [] => []
  | (key, value) :: rest => memberLines key value (lines value) ++ entryLines rest

end

/-- The lines of a value that is a document of its own. -/
def documentLines (value : Json) : List Line :=
  match value with
  | .array _ => lines value
  | .object _ => lines value
  | scalar => hang [] (lines scalar)

/-- The text of a document. -/
def document (value : Json) : String :=
  String.ofList ((documentLines value).flatMap Line.toList)

/-- The mark before a document. -/
def documentMark : String := "---\n"

/-- The text of a stream of documents. -/
def stream (values : List Json) : String :=
  String.join (values.map fun value => documentMark ++ document value)

end ResourceTemplate.Yaml

/-!
# Alphabets of expressions

The body of a block lists what its characters are drawn from: classes such as `\w`, spans such as
`a-f`, and single characters.  The alphabet is the union of the items, each character once and where
it first appears.
-/

namespace ResourceTemplate.Expression

/-- Why an expression has no value. -/
inductive GeneratorError where
  /-- The body of a block is not a list of items. -/
  | malformed (expression : String)
  /-- The ends of a span stand in the wrong order. -/
  | reversedSpan (first last : Char)
  /-- The length of a block is not a number from 1 to 255. -/
  | badLength (length : String)
deriving DecidableEq

/-- The wording of an error. -/
def GeneratorError.message : GeneratorError → String
  | malformed expression => s!"malformed expression syntax: {expression}"
  | reversedSpan first last => s!"invalid range specified: {first}-{last}"
  | badLength length => s!"range must be within [1-255] characters ({length})"

/-- The characters that spans run over, in their order. -/
def alphanumeric : List Char :=
  "0123456789ABCDEFGHIJKLMNOPQRSTUVWXYZabcdefghijklmnopqrstuvwxyz".toList

/-- The decimal digits. -/
def digits : List Char := "0123456789".toList

/-- The symbols among the ASCII characters. -/
def symbols : List Char :=
  "~!@#$%^&*()-_+=\x7b\x7d[]\\|<,>.?/\"';:`".toList

/-- A named class of characters. -/
inductive CharClass where
  | word
  | digit
  | alphanumeric
  | symbol
deriving DecidableEq

/-- The class that a letter behind a backslash names. -/
def CharClass.ofLetter? (letter : Char) : Option CharClass :=
  if letter = 'w' then some word
  else if letter = 'd' then some digit
  else if letter = 'a' then some alphanumeric
  else if letter = 'A' then some symbol
  else none

/-- The characters of a class. -/
def CharClass.chars : CharClass → List Char
  | word => Expression.alphanumeric ++ ['_']
  | digit => digits
  | alphanumeric => Expression.alphanumeric
  | symbol => symbols

/-- One item of a body. -/
inductive Item where
  | charClass (c : CharClass)
  | span (first last : Char)
  | single (c : Char)
deriving DecidableEq

/-- Why the items of a body cannot be read. -/
inductive ItemFault where
  | malformed
  | reversed (first last : Char)
deriving DecidableEq

/-- The characters from one end of a span to the other. -/
def spanChars (first last : Char) : List Char :=
  let start := alphanumeric.idxOf first
  let stop := alphanumeric.idxOf last
  (alphanumeric.take (stop + 1)).drop start

/-- Whether two characters are the ends of a span in the right order. -/
def isSpan (first last : Char) : Bool :=
  alphanumeric.contains first && alphanumeric.contains last &&
    alphanumeric.idxOf first ≤ alphanumeric.idxOf last

/-- The characters of an item. -/
def Item.chars : Item → List Char
  | charClass c => c.chars
  | span first last => spanChars first last
  | single c => [c]

/-- Read the items of a body from left to right. -/
def readItems : List Char → Except ItemFault (List Item)
  | [] => .ok []
  | '\\' :: [] => .error .malformed
  | '\\' :: letter :: rest =>
      match CharClass.ofLetter? letter with
      | none => .error .malformed
      | some c => (readItems rest).map (Item.charClass c :: ·)
  | '-' :: _ => .error .malformed
  | _ :: '-' :: [] => .error .malformed
  | first :: '-' :: last :: rest =>
      if last = '-' ∨ last = '\\' then .error .malformed
      else if isSpan first last then (readItems rest).map (Item.span first last :: ·)
      else .error (.reversed first last)
  | c :: rest => (readItems rest).map (Item.single c :: ·)

/-- Append the characters that are not there yet, each once. -/
def extendUnique (known new : List Char) : List Char :=
  new.foldl (fun acc c => if acc.contains c then acc else acc ++ [c]) known

/-- The union of the characters of items, in order of first appearance. -/
def unionOf (items : List Item) : List Char :=
  items.foldl (fun acc item => extendUnique acc item.chars) []

/-- The alphabet that a body describes. -/
def alphabet (body : List Char) : Except GeneratorError (List Char) :=
  let malformed := GeneratorError.malformed (String.ofList ('[' :: body ++ [']']))
  match readItems body with
  | .error .malformed => .error malformed
  | .error (.reversed first last) => .error (.reversedSpan first last)
  | .ok items =>
      match unionOf items with
      | [] => .error malformed
      | c :: cs => .ok (c :: cs)

end ResourceTemplate.Expression

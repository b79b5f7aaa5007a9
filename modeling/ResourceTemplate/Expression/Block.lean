import ResourceTemplate.Text.WordCharacter

/-!
# Blocks of an expression

A block is a body in brackets followed by a length in braces.  The body is made of ASCII letters,
digits, hyphens and backslashes, the length of word characters, and neither is empty.  An expression
is cut into its blocks, from left to right, and the characters between them.  Two blocks cannot
overlap, because no part of a block contains a bracket that opens one.
-/

namespace ResourceTemplate.Expression

/-- Whether a character may stand in the body of a block. -/
def isBodyChar (c : Char) : Bool :=
  c.isAlphanum || c = '-' || c = '\\'

/-- A block: what its characters are drawn from, and how many are drawn. -/
structure Block where
  body : List Char
  length : List Char
deriving DecidableEq

/-- How a block is written. -/
def Block.chars (b : Block) : List Char :=
  '[' :: b.body ++ ']' :: '\x7b' :: b.length ++ ['\x7d']

/-- A part of an expression: a block, or a character to be kept. -/
inductive Piece where
  | kept (c : Char)
  | block (b : Block)
deriving DecidableEq

/-- The length at the start of a text, between braces. -/
def lengthAt? (text : List Char) : Option (List Char) :=
  match text with
  | '\x7b' :: rest =>
      let length := rest.takeWhile Text.isWord
      match length, rest.dropWhile Text.isWord with
      | _ :: _, '\x7d' :: _ => some length
      | _, _ => none
  | _ => none

/-- The block at the start of a text. -/
def blockAt? (text : List Char) : Option Block :=
  match text with
  | '[' :: rest =>
      let body := rest.takeWhile isBodyChar
      match body, rest.dropWhile isBodyChar with
      | _ :: _, ']' :: behind => (lengthAt? behind).map fun length => ⟨body, length⟩
      | _, _ => none
  | _ => none

/-- Cut a text into pieces, of which the first characters belong to a block already found. -/
def cut (taken : Nat) : List Char → List Piece
  | [] => []
  | c :: rest =>
      match taken with
      | taken + 1 => cut taken rest
      | 0 =>
          match blockAt? (c :: rest) with
          | some b => .block b :: cut (b.chars.length - 1) rest
          | none => .kept c :: cut 0 rest

/-- The pieces of an expression. -/
def pieces (expression : List Char) : List Piece :=
  cut 0 expression

end ResourceTemplate.Expression

import ResourceTemplate.Json.Basic
import ResourceTemplate.Number.Shortest

/-!
# Writing JSON

The compact form has no blanks.  The indented form puts every item and member on a line of its own,
two spaces deeper than what contains it, and writes an empty container as a pair of brackets.  A
string escapes quotes, backslashes and the controls below the space, and nothing else.
-/

namespace ResourceTemplate

/-- The text of a number. -/
def Number.text (layout : Binary64.Layout) : Number → String
  | natural n => toString n
  | negative n => "-" ++ toString (n + 1)
  | double d => d.text layout

namespace Json

/-- Doubles far from the unit have an exponent with a sign. -/
def layout : Binary64.Layout := ⟨true, true⟩

/-- Two lower-case hexadecimal digits. -/
def hexPair (n : Nat) : List Char :=
  [Nat.digitChar (n / 16 % 16), Nat.digitChar (n % 16)]

/-- A character as it stands in a string. -/
def escapeChar (c : Char) : List Char :=
  if c = '"' then ['\\', '"']
  else if c = '\\' then ['\\', '\\']
  else if c = '\n' then ['\\', 'n']
  else if c = '\r' then ['\\', 'r']
  else if c = '\t' then ['\\', 't']
  else if c = '\x08' then ['\\', 'b']
  else if c = '\x0c' then ['\\', 'f']
  else if c.toNat < 0x20 then ['\\', 'u', '0', '0'] ++ hexPair c.toNat
  else [c]

/-- A string between quotes. -/
def quote (s : String) : String :=
  String.ofList ('"' :: s.toList.flatMap escapeChar ++ ['"'])

mutual

/-- The compact form of a value. -/
def compact : Json → String
  | null => "null"
  | bool b => if b then "true" else "false"
  | number n => n.text layout
  | string s => quote s
  | array items => "[" ++ compactItems true items ++ "]"
  | object members => "\x7b" ++ compactMembers true members ++ "\x7d"

/-- The compact forms of items, with commas between them. -/
def compactItems (first : Bool) : List Json → String
  | [] => ""
  | item :: rest => (if first then "" else ",") ++ item.compact ++ compactItems false rest

/-- The compact forms of members, with commas between them. -/
def compactMembers (first : Bool) : List (String × Json) → String
  | [] => ""
  | (key, value) :: rest =>
      (if first then "" else ",") ++ quote key ++ ":" ++ value.compact ++ compactMembers false rest

end

/-- A line break and the indentation of a depth. -/
def lineBreak (depth : Nat) : String :=
  String.ofList ('\n' :: List.replicate (2 * depth) ' ')

mutual

/-- The indented form of a value that stands at a depth. -/
def indented (depth : Nat) : Json → String
  | array [] => "[]"
  | object [] => "\x7b\x7d"
  | array items => "[" ++ indentedItems (depth + 1) true items ++ lineBreak depth ++ "]"
  | object members =>
      "\x7b" ++ indentedMembers (depth + 1) true members ++ lineBreak depth ++ "\x7d"
  | scalar => scalar.compact

/-- The indented forms of items, each on a line of its own. -/
def indentedItems (depth : Nat) (first : Bool) : List Json → String
  | [] => ""
  | item :: rest =>
      (if first then "" else ",") ++ lineBreak depth ++ item.indented depth ++
        indentedItems depth false rest

/-- The indented forms of members, each on a line of its own. -/
def indentedMembers (depth : Nat) (first : Bool) : List (String × Json) → String
  | [] => ""
  | (key, value) :: rest =>
      (if first then "" else ",") ++ lineBreak depth ++ quote key ++ ": " ++
        value.indented depth ++ indentedMembers depth false rest

end

end Json

end ResourceTemplate

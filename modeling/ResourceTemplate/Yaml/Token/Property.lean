import ResourceTemplate.Text.Hexadecimal
import ResourceTemplate.Yaml.Scalar.Block
import ResourceTemplate.Yaml.Token

/-!
# Directives, anchors and tags

A directive stands on a line of its own and begins with a percent sign.  An anchor names a node, an
alias refers to the name, and a tag gives a node a type.  In a tag, a percent sign begins the
hexadecimal form of one byte of a character.
-/

namespace ResourceTemplate.Yaml

/-! ## Tags -/

/-- The bytes of a character whose first byte is given; nothing when no character begins so. -/
def characterWidth? (octet : Nat) : Option Nat :=
  if octet < 0x80 then some 1
  else if octet / 0x20 = 6 then some 2
  else if octet / 0x10 = 14 then some 3
  else if octet / 0x08 = 30 then some 4
  else none

/-- The bits that the first byte of a character contributes. -/
def leadBits (width octet : Nat) : Nat :=
  match width with
  | 1 => octet
  | 2 => octet % 0x20
  | 3 => octet % 0x10
  | _ => octet % 0x08

/-- The least code point that needs so many bytes. -/
def leastOfWidth (width : Nat) : Nat :=
  match width with
  | 1 => 0
  | 2 => 0x80
  | 3 => 0x800
  | _ => 0x10000

/-- The character of a code point that was written in so many bytes.  What is no character becomes
the mark of a lost one. -/
def characterOf (width code : Nat) : Char :=
  if code < leastOfWidth width ∨ (0xD800 ≤ code ∧ code ≤ 0xDFFF) ∨ 0x10FFFF < code then '\ufffd'
  else Char.ofNat code

/-- What is missing of a character whose bytes are read one by one. -/
structure PartialCharacter where
  width : Nat
  missing : Nat
  code : Nat

/-- Read the text of a tag.  The characters read so far are given in reverse. -/
def readTagText (isTagText : Char → Bool) (fault : Problem → Mark → Fault) (done : List Char)
    (part? : Option PartialCharacter) (m : Mark) :
    List Char → Except Fault (List Char × Cursor)
  | '%' :: a :: b :: rest =>
      match Text.digits? 16 [a, b], part? with
      | none, _ => .error (fault .badTagEscape m)
      | some octet, none =>
          match characterWidth? octet with
          | none => .error (fault .badTagLead m)
          | some 1 =>
              readTagText isTagText fault (Char.ofNat octet :: done) none
                (m.afterAll ['%', a, b]) rest
          | some width =>
              readTagText isTagText fault done (some ⟨width, width - 1, leadBits width octet⟩)
                (m.afterAll ['%', a, b]) rest
      | some octet, some part =>
          if octet / 0x40 ≠ 2 then .error (fault .badTagTrail m)
          else
            let code := part.code * 0x40 + octet % 0x40
            if part.missing ≤ 1 then
              readTagText isTagText fault (characterOf part.width code :: done) none
                (m.afterAll ['%', a, b]) rest
            else
              readTagText isTagText fault done (some ⟨part.width, part.missing - 1, code⟩)
                (m.afterAll ['%', a, b]) rest
  | c :: rest =>
      if part?.isSome ∨ c = '%' then .error (fault .badTagEscape m)
      else if isTagText c then readTagText isTagText fault (c :: done) none (m.after c) rest
      else .ok (done.reverse, ⟨m, c :: rest⟩)
  | [] =>
      if part?.isSome then .error (fault .badTagEscape m) else .ok (done.reverse, ⟨m, []⟩)

/-- Whether a character may stand in a tag that is written in full. -/
def isFullTagChar (c : Char) : Bool := isTagChar c || c = ',' || c = '[' || c = ']'

/-- Read a tag handle: an exclamation mark, and a name between two of them if there is a second. -/
def readTagHandle (context : Context) (start : Mark) (isDirective : Bool) (c : Cursor) :
    Except Fault (List Char × Cursor) :=
  match c.rest with
  | '!' :: _ =>
      let name := c.next.span isNameChar
      match name.2.rest with
      | '!' :: _ => .ok ('!' :: name.1 ++ ['!'], name.2.next)
      | _ =>
          if isDirective && !name.1.isEmpty then
            .error (.within context start .missingTagMark name.2.mark)
          else .ok ('!' :: name.1, name.2)
  | _ => .error (.within context start .missingTagMark c.mark)

/-- A text up to the first character that no text may hold. -/
def upToNul (cs : List Char) : String := String.ofList (cs.takeWhile (· ≠ '\x00'))

/-- Whether a handle has a name or consists of two marks. -/
def isNamedHandle (handle : List Char) : Bool := 2 ≤ handle.length && handle.getLast? = some '!'

/-- Read the handle and the rest of a tag that is not written in full. -/
def readShortTag (start : Mark) (c : Cursor) : Except Fault (Token × Cursor) := do
  let fault := Fault.within .tagText start
  let (handle, c) ← readTagHandle .tag start false c
  if isNamedHandle handle then
    let (text, behind) ← readTagText isTagChar fault [] none c.mark c.rest
    if behind.mark.index = c.mark.index then .error (fault .missingTag c.mark)
    else return (.tag (upToNul handle) (upToNul text), behind)
  else
    let (text, behind) ← readTagText isTagChar fault (handle.drop 1).reverse none c.mark c.rest
    let ending := upToNul text
    if ending.isEmpty then return (.tag "" "!", behind) else return (.tag "!" ending, behind)

/-- Read a tag. -/
def readTag (inFlow : Bool) (c : Cursor) : Except Fault (Token × Cursor) := do
  let start := c.mark
  let (token, c) ← match c.rest with
    | '!' :: '<' :: _ => do
        let inside := c.skip 2
        let fault := Fault.within .tagText start
        let (text, behind) ← readTagText isFullTagChar fault [] none inside.mark inside.rest
        if behind.mark.index = inside.mark.index then .error (fault .missingTag inside.mark)
        else if behind.rest.head? = some '>' then
          pure (Token.tag "" (upToNul text), behind.next)
        else .error (.within .tag start .unclosedTag behind.mark)
    | _ => readShortTag start c
  if atSpacing c.rest || (inFlow && c.rest.head? = some ',') then return (token, c)
  else .error (.within .tag start .missingSpaceOrBreak c.mark)

/-! ## Anchors -/

/-- Whether a name may end in front of what comes next. -/
def endsName : List Char → Bool
  | [] => true
  | c :: _ => isSpacing c || ['?', ':', ',', ']', '\x7d', '%', '@', '\x60'].contains c

/-- Read the name behind the indicator of an anchor or an alias. -/
def readName (context : Context) (c : Cursor) : Except Fault (String × Cursor) :=
  let name := c.next.span isNameChar
  if name.1.isEmpty || !endsName name.2.rest then
    .error (.within context c.mark .badAnchor name.2.mark)
  else .ok (String.ofList name.1, name.2)

/-! ## Directives -/

/-- The most digits that a part of a version may have. -/
def versionDigits : Nat := 9

/-- Read a part of a version. -/
def readVersionPart (start : Mark) (c : Cursor) : Except Fault (Nat × Cursor) :=
  let digits := c.span Char.isDigit
  if digits.1.isEmpty then .error (.within .versionDirective start .missingVersion c.mark)
  else if versionDigits < digits.1.length then
    .error (.within .versionDirective start .longVersion (c.skip versionDigits).mark)
  else .ok ((Text.digits? 10 digits.1).getD 0, digits.2)

/-- Read the version that a directive gives. -/
def readVersion (start : Mark) (c : Cursor) : Except Fault (Token × Cursor) := do
  let (major, c) ← readVersionPart start (c.skipWhile isBlank)
  if c.rest.head? = some '.' then
    let (minor, c) ← readVersionPart start c.next
    return (.version major minor, c)
  else .error (.within .versionDirective start .badVersion c.mark)

/-- Read the tag handle that a directive declares. -/
def readTagDirective (start : Mark) (c : Cursor) : Except Fault (Token × Cursor) := do
  let (handle, c) ← readTagHandle .tagDirective start true (c.skipWhile isBlank)
  if !(c.rest.head?.any isBlank) then
    .error (.within .tagDirective start .missingSpace c.mark)
  else
    let c := c.skipWhile isBlank
    let fault := Fault.within .tagDirective start
    let (text, behind) ← readTagText isFullTagChar fault [] none c.mark c.rest
    if behind.mark.index = c.mark.index then .error (fault .missingTag c.mark)
    else if atSpacing behind.rest then
      return (.tagHandle (upToNul handle) (upToNul text), behind)
    else .error (fault .missingSpaceOrBreak behind.mark)

/-- Read a directive with the end of its line.  The place behind the directive itself is returned
between the token and the place where reading goes on. -/
def readDirective (c : Cursor) : Except Fault (Token × Mark × Cursor) := do
  let start := c.mark
  let (name, behind) := c.next.span isNameChar
  if name.isEmpty then .error (.within .directive start .missingDirectiveName behind.mark)
  else if !atSpacing behind.rest then
    .error (.within .directive start .badDirectiveName behind.mark)
  else
    let (token, c) ← match String.ofList name with
      | "YAML" => readVersion start behind
      | "TAG" => readTagDirective start behind
      | _ => .error (.within .directive start .unknownDirective behind.mark)
    let next ← endLine .directive start c
    return (token, c.mark, next)

end ResourceTemplate.Yaml

import ResourceTemplate.Yaml.Scalar.Plain
import ResourceTemplate.Yaml.Scalar.Quoted
import ResourceTemplate.Yaml.Token.Property

/-!
# From characters to tokens

Outside flow collections, indentation opens and closes collections: a line further to the right than
the collection around it opens one, and a line further to the left closes all that begin to the
right of it.

A node that is followed by a colon is a key.  This is known only at the colon, so every place where
a key may begin is kept until then, one for each flow collection around it, and the tokens in front
of the key are put in afterwards.  A key stands on one line and has at most 1024 characters.
-/

namespace ResourceTemplate.Yaml

/-- A place where a key may have begun. -/
structure PendingKey where
  /-- Whether nothing but a key may stand there. -/
  required : Bool
  /-- The number of tokens before it. -/
  number : Nat
  start : Mark

/-- The state of scanning. -/
structure Scanner where
  cursor : Cursor
  /-- The number of flow collections around the place. -/
  flowDepth : Nat
  /-- The column of the innermost block collection, and those of the ones around it. -/
  indent : Int
  outer : List Int
  /-- Whether a key may begin at the place. -/
  keyAllowed : Bool
  /-- Where keys may have begun: at this flow depth, and at those around it. -/
  pending? : Option PendingKey
  outerPending : List (Option PendingKey)
  /-- The tokens found so far, the latest first, and their number. -/
  tokens : List Lexeme
  count : Nat

namespace Scanner

/-- The column of a text that no block collection is open in. -/
def noIndent : Int := -1

/-- The state at the start of a text. -/
def start (text : List Char) : Scanner :=
  { cursor := ⟨Mark.start, text⟩, flowDepth := 0, indent := noIndent, outer := [],
    keyAllowed := true, pending? := none, outerPending := [], tokens := [], count := 0 }

/-- Whether the place is in a flow collection. -/
def inFlow (s : Scanner) : Bool := s.flowDepth ≠ 0

/-- Add a token. -/
def push (s : Scanner) (token : Token) (start stop : Mark) : Scanner :=
  { s with tokens := ⟨token, start, stop⟩ :: s.tokens, count := s.count + 1 }

/-- Put a token in behind the first so many. -/
def insert (s : Scanner) (number : Nat) (token : Token) (place : Mark) : Scanner :=
  let behind := s.count - number
  { s with
    tokens := s.tokens.take behind ++ ⟨token, place, place⟩ :: s.tokens.drop behind
    count := s.count + 1 }

/-- Go on behind so many characters, which are a token. -/
def pushChars (s : Scanner) (token : Token) (width : Nat) : Scanner :=
  let next := s.cursor.skip width
  { s.push token s.cursor.mark next.mark with cursor := next }

/-! ## Keys -/

/-- The greatest length of a key. -/
def keyLimit : Nat := 1024

/-- Whether a key that began at a place can no longer end at another. -/
def isStale (key : PendingKey) (m : Mark) : Bool :=
  key.start.line < m.line || key.start.index + keyLimit < m.index

/-- The fault of a key without a colon. -/
def missingColon (key : PendingKey) (m : Mark) : Fault :=
  .within .simpleKey key.start .keyWithoutColon m

/-- Forget a key that can no longer end. -/
def dropStale (m : Mark) (key? : Option PendingKey) : Except Fault (Option PendingKey) :=
  match key? with
  | none => .ok none
  | some key =>
      if !isStale key m then .ok (some key)
      else if key.required then .error (missingColon key m)
      else .ok none

/-- Forget all keys that can no longer end. -/
def dropAllStale (s : Scanner) : Except Fault Scanner := do
  let pending? ← dropStale s.cursor.mark s.pending?
  let outerPending ← s.outerPending.mapM (dropStale s.cursor.mark)
  return { s with pending? := pending?, outerPending := outerPending }

/-- Forget the key of this flow depth. -/
def dropKey (s : Scanner) : Except Fault Scanner :=
  match s.pending? with
  | none => .ok s
  | some key =>
      if key.required then .error (missingColon key s.cursor.mark)
      else .ok { s with pending? := none }

/-- Note that a key may begin here. -/
def noteKey (s : Scanner) : Except Fault Scanner :=
  if !s.keyAllowed then .ok s
  else do
    let s ← s.dropKey
    let required := !s.inFlow && s.indent = (s.cursor.mark.column : Int)
    return { s with pending? := some ⟨required, s.count, s.cursor.mark⟩ }

/-! ## Indentation -/

/-- Open a block collection, unless one is open at its column.  Its token is put in behind the first
so many tokens. -/
def indentTo (s : Scanner) (start : Mark) (number : Nat) (token : Token) : Scanner :=
  if s.inFlow || decide ((start.column : Int) ≤ s.indent) then s
  else { s.insert number token start with indent := start.column, outer := s.indent :: s.outer }

/-- The columns of the block collections that stay open at a column, and the number of those that do
not. -/
def closedAt (column : Int) : Int → List Int → Nat × Int × List Int
  | indent, [] => (0, indent, [])
  | indent, next :: outer =>
      if indent ≤ column then (0, indent, next :: outer)
      else
        let closed := closedAt column next outer
        (closed.1 + 1, closed.2)

/-- Close the block collections that begin to the right of a column. -/
def unindentTo (s : Scanner) (column : Int) : Scanner :=
  if s.inFlow then s
  else
    let closed := closedAt column s.indent s.outer
    let here := s.cursor.mark
    { s with
      tokens := List.replicate closed.1 ⟨.blockEnd, here, here⟩ ++ s.tokens
      count := s.count + closed.1
      indent := closed.2.1
      outer := closed.2.2 }

/-! ## Spacing -/

/-- The place of the next token, and whether a key may begin there.  Tabulators may stand in front
of a token only where no key may begin, or in flow collections. -/
def spacing (inFlow keyAllowed inComment : Bool) (m : Mark) : List Char → Cursor × Bool
  | [] => (⟨m, []⟩, keyAllowed)
  | c :: rest =>
      if isBreak c then spacing inFlow (keyAllowed || !inFlow) false (m.after c) rest
      else if inComment || c = ' ' || (c = '\t' && (inFlow || !keyAllowed)) ||
          (c = byteOrderMark && m.index = 0) then
        spacing inFlow keyAllowed inComment (m.after c) rest
      else if c = '#' then spacing inFlow keyAllowed true (m.after c) rest
      else (⟨m, c :: rest⟩, keyAllowed)

/-- Go on to the next token. -/
def toNextToken (s : Scanner) : Scanner :=
  let next := spacing s.inFlow s.keyAllowed false s.cursor.mark s.cursor.rest
  { s with cursor := next.1, keyAllowed := next.2 }

/-! ## Tokens -/

/-- Put in the token of what ends everything that is open in a block. -/
def atMargin (s : Scanner) : Except Fault Scanner := do
  let s ← (s.unindentTo noIndent).dropKey
  return { s with keyAllowed := false }

/-- Scan the start or the end of a document. -/
def documentMark (s : Scanner) (token : Token) : Except Fault Scanner := do
  return (← s.atMargin).pushChars token 3

/-- Scan a directive. -/
def directive (s : Scanner) : Except Fault Scanner := do
  let s ← s.atMargin
  let (token, stop, next) ← readDirective s.cursor
  return { s.push token s.cursor.mark stop with cursor := next }

/-- Scan the start of a flow collection. -/
def openFlow (s : Scanner) (token : Token) : Except Fault Scanner := do
  let s ← s.noteKey
  let s := s.pushChars token 1
  return { s with
    flowDepth := s.flowDepth + 1, keyAllowed := true, pending? := none,
    outerPending := s.pending? :: s.outerPending }

/-- Scan the end of a flow collection. -/
def closeFlow (s : Scanner) (token : Token) : Except Fault Scanner := do
  let s ← s.dropKey
  let s := { s.pushChars token 1 with keyAllowed := false }
  match s.outerPending with
  | [] => return s
  | key? :: outer =>
      return { s with flowDepth := s.flowDepth - 1, pending? := key?, outerPending := outer }

/-- Scan a comma. -/
def comma (s : Scanner) : Except Fault Scanner := do
  let s ← s.dropKey
  return { s.pushChars .comma 1 with keyAllowed := true }

/-- Scan the indicator of an item. -/
def item (s : Scanner) : Except Fault Scanner := do
  if !s.inFlow && !s.keyAllowed then .error (.plain .misplacedItem s.cursor.mark)
  else
    let s ← (s.indentTo s.cursor.mark s.count .blockSequenceStart).dropKey
    return { s.pushChars .item 1 with keyAllowed := true }

/-- Scan the indicator of a key. -/
def key (s : Scanner) : Except Fault Scanner := do
  if !s.inFlow && !s.keyAllowed then .error (.plain .misplacedKey s.cursor.mark)
  else
    let s ← (s.indentTo s.cursor.mark s.count .blockMappingStart).dropKey
    return { s.pushChars .key 1 with keyAllowed := !s.inFlow }

/-- Scan the colon in front of a value. -/
def value (s : Scanner) : Except Fault Scanner :=
  match s.pending? with
  | some key =>
      let s := (s.insert key.number .key key.start).indentTo key.start key.number
        .blockMappingStart
      .ok { s.pushChars .value 1 with pending? := none, keyAllowed := false }
  | none =>
      if !s.inFlow && !s.keyAllowed then .error (.plain .misplacedValue s.cursor.mark)
      else
        let s := s.indentTo s.cursor.mark s.count .blockMappingStart
        .ok { s.pushChars .value 1 with keyAllowed := !s.inFlow }

/-- Scan something that may be a key or stand in front of one. -/
def node (s : Scanner) (read : Cursor → Except Fault (Token × Cursor)) : Except Fault Scanner := do
  let s ← s.noteKey
  let (token, next) ← read s.cursor
  return { s.push token s.cursor.mark next.mark with cursor := next, keyAllowed := false }

/-- Scan a block scalar. -/
def blockScalar (s : Scanner) (style : Style) : Except Fault Scanner := do
  let s ← s.dropKey
  let start := s.cursor.mark
  let (text, next) ← readBlockScalar (style = .literal) s.indent start s.cursor.next
  return { s.push (.scalar style text) start next.mark with cursor := next, keyAllowed := true }

/-- Scan a quoted scalar. -/
def quoted (s : Scanner) (style : Style) : Except Fault Scanner :=
  s.node fun c =>
    let inside := c.next
    let read := if style = .singleQuoted then readSingleQuoted else readDoubleQuoted
    (read c.mark [] none inside.mark inside.rest).map fun result =>
      (.scalar style result.1, result.2)

/-- Scan a plain scalar. -/
def plain (s : Scanner) : Except Fault Scanner := do
  let s ← s.noteKey
  let start := s.cursor.mark
  let scalar ← PlainScalar.read ⟨s.inFlow, s.indent + 1, start⟩ [] start none start s.cursor.rest
  return { s.push (.scalar .plain scalar.text) start scalar.stop with
    cursor := scalar.cursor, keyAllowed := scalar.isBroken }

/-- Whether a plain scalar may begin with a character in front of others. -/
def beginsPlain (inFlow : Bool) (c : Char) (rest : List Char) : Bool :=
  if c = '-' then !(rest.head?.any isBlank)
  else if c = '?' ∨ c = ':' then !inFlow && !atSpacing rest
  else !isSpacing c && !Style.leadingIndicators.contains c

/-- Scan one token that begins at the place. -/
def token (s : Scanner) : Except Fault Scanner :=
  let m := s.cursor.mark
  match s.cursor.rest with
  | [] => .ok s
  | c :: rest =>
      if m.column = 0 && c = '%' then s.directive
      else if m.column = 0 && beginsTriple '-' (c :: rest) then s.documentMark .documentStart
      else if m.column = 0 && beginsTriple '.' (c :: rest) then s.documentMark .documentEnd
      else if c = '[' then s.openFlow .flowSequenceStart
      else if c = '\x7b' then s.openFlow .flowMappingStart
      else if c = ']' then s.closeFlow .flowSequenceEnd
      else if c = '\x7d' then s.closeFlow .flowMappingEnd
      else if c = ',' then s.comma
      else if c = '-' && atSpacing rest then s.item
      else if c = '?' && (s.inFlow || atSpacing rest) then s.key
      else if c = ':' && (s.inFlow || atSpacing rest) then s.value
      else if c = '*' then
        s.node fun c => (readName .aliasName c).map fun name => (.aliasName name.1, name.2)
      else if c = '&' then
        s.node fun c => (readName .anchor c).map fun name => (.anchor name.1, name.2)
      else if c = '!' then s.node (readTag s.inFlow)
      else if c = '|' && !s.inFlow then s.blockScalar .literal
      else if c = '>' && !s.inFlow then s.blockScalar .folded
      else if c = '\'' then s.quoted .singleQuoted
      else if c = '"' then s.quoted .doubleQuoted
      else if beginsPlain s.inFlow c rest then s.plain
      else .error (.within .nextToken m .noToken m)

/-- End the text. -/
def finish (s : Scanner) : Except Fault Scanner := do
  let m := s.cursor.mark
  let m := if m.column = 0 then m else ⟨m.index, m.line + 1, 0⟩
  let s ← { s with cursor := ⟨m, []⟩ }.atMargin
  return s.push .streamEnd m m

/-- Scan tokens until the text ends or cannot be scanned any further. -/
def run (s : Scanner) : Nat → Scanner × Option Fault
  | 0 => (s, some (.plain .noToken s.cursor.mark))
  | fuel + 1 =>
      let next := s.toNextToken
      match next.dropAllStale with
      | .error fault => (s, some fault)
      | .ok next =>
          let next := next.unindentTo next.cursor.mark.column
          if next.cursor.rest.isEmpty then
            match next.finish with
            | .error fault => (next, some fault)
            | .ok last => (last, none)
          else
            match next.token with
            | .error fault => (next, some fault)
            | .ok following => run following fuel

end Scanner

/-- The tokens of a text, up to its end or to a fault. -/
def Token.scan (text : List Char) : List Lexeme × Option Fault :=
  let scanned := (Scanner.start text).run (text.length + 1)
  (scanned.1.tokens.reverse, scanned.2)

end ResourceTemplate.Yaml

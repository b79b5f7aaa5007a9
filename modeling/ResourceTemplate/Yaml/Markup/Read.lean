import ResourceTemplate.Yaml.Markup
import ResourceTemplate.Yaml.Token.Scan

/-!
# From tokens to markup

Collections nest as their tokens say.  Where a node is missing, the empty scalar stands, but in a
flow collection two commas must have something between them.  A text holds at most one document;
what follows it is a fault of its own, told only when the document itself has none.
-/

namespace ResourceTemplate.Yaml

/-- The state of reading tokens. -/
structure TokenReader where
  rest : List Lexeme
  /-- Why there are no further tokens. -/
  fault : Fault
  /-- The numbers of the names that were given to nodes. -/
  numbers : List (String × Nat)
  /-- What the tag handles stand for. -/
  handles : List (String × String)

/-- A reading of tokens. -/
abbrev TokenReading (α : Type) := StateT TokenReader (Except Fault) α

namespace TokenReading

/-- The next token. -/
def peek : TokenReading Lexeme := do
  let reader ← get
  match reader.rest with
  | next :: _ => return next
  | [] => throw reader.fault

/-- Go on behind the next token. -/
def skip : TokenReading Unit := modify fun reader => { reader with rest := reader.rest.drop 1 }

/-- Give a name to the node that begins here. -/
def number (name : String) : TokenReading Nat := do
  let reader ← get
  let n := reader.numbers.length
  let others := reader.numbers.filter fun entry => entry.1 ≠ name
  set { reader with numbers := (name, n) :: others }
  return n

/-- The number that an alias refers to. -/
def numberOf (name : String) (place : Mark) : TokenReading Nat := do
  let reader ← get
  match reader.numbers.find? fun entry => entry.1 = name with
  | some entry => return entry.2
  | none => throw (.plain .unknownAnchor place)

end TokenReading

open TokenReading

/-- What stands in front of a node. -/
structure Properties where
  start : Mark
  name? : Option String
  tag? : Option (String × String × Mark)

namespace Properties

/-- Whether nothing stands in front of the node. -/
def isEmpty (p : Properties) : Bool := p.name?.isNone && p.tag?.isNone

/-- Read what stands in front of a node: a name and a tag, in either order. -/
def read : TokenReading Properties := do
  let first ← peek
  match first.token with
  | .anchor name =>
      skip
      let second ← peek
      match second.token with
      | .tag handle ending =>
          skip
          return ⟨first.start, some name, some (handle, ending, second.start)⟩
      | _ => return ⟨first.start, some name, none⟩
  | .tag handle ending =>
      skip
      let second ← peek
      match second.token with
      | .anchor name =>
          skip
          return ⟨first.start, some name, some (handle, ending, first.start)⟩
      | _ => return ⟨first.start, none, some (handle, ending, first.start)⟩
  | _ => return ⟨first.start, none, none⟩

/-- The tag of a node. -/
def resolveTag (p : Properties) : TokenReading (Option Tag) := do
  match p.tag? with
  | none => return none
  | some ("", ending, _) => return some (.ofText ending)
  | some (handle, ending, place) =>
      match (← get).handles.find? fun entry => entry.1 = handle with
      | some entry => return some (.ofText (entry.2 ++ ending))
      | none => throw (.within .node p.start .undefinedTagHandle place)

/-- The number of a node. -/
def resolveName (p : Properties) : TokenReading (Option Nat) := do
  match p.name? with
  | none => return none
  | some name => return some (← number name)

end Properties

namespace Markup

/-- Whether a token ends a block collection or goes on with it. -/
def isBlockBoundary : Token → Bool
  | .key => true
  | .value => true
  | .blockEnd => true
  | _ => false

/-- Whether a token ends a flow sequence or goes on with it. -/
def isSequenceBoundary : Token → Bool
  | .comma => true
  | .flowSequenceEnd => true
  | _ => false

/-- Whether a token ends a flow mapping or goes on with it. -/
def isMappingBoundary : Token → Bool
  | .comma => true
  | .flowMappingEnd => true
  | _ => false

mutual

/-- Read a node.  `inBlock` says whether it may be a block collection, and `asValue` whether its
items may stand at the column of the mapping around it. -/
def readNode (fuel : Nat) (inBlock asValue : Bool) : TokenReading Markup :=
  match fuel with
  | 0 => do throw (← get).fault
  | fuel + 1 => do
      let first ← peek
      match first.token with
      | .aliasName name =>
          skip
          return .aliasNode first.start (← numberOf name first.start)
      | _ =>
          let properties ← Properties.read
          let tag? ← properties.resolveTag
          let next ← peek
          let place := properties.start
          match next.token with
          | .scalar style text =>
              skip
              return .scalar place (← properties.resolveName) tag? style text
          | .flowSequenceStart =>
              skip
              let number? ← properties.resolveName
              return .sequence place number? tag? (← readFlowItems fuel next.start [])
          | .flowMappingStart =>
              skip
              let number? ← properties.resolveName
              return .mapping place number? tag? (← readFlowEntries fuel next.start [])
          | other =>
              if other = .item && asValue then
                let number? ← properties.resolveName
                return .sequence place number? tag? (← readAlignedItems fuel [])
              else if other = .blockSequenceStart && inBlock then
                skip
                let number? ← properties.resolveName
                return .sequence place number? tag? (← readBlockItems fuel next.start [])
              else if other = .blockMappingStart && inBlock then
                skip
                let number? ← properties.resolveName
                return .mapping place number? tag? (← readBlockEntries fuel next.start [])
              else if !properties.isEmpty then
                return .scalar place (← properties.resolveName) tag? .plain ""
              else
                let context := if inBlock then Context.blockNode else .flowNode
                throw (.within context place .missingContent next.start)

/-- Read the items of a block sequence.  The items before are given in reverse. -/
def readBlockItems (fuel : Nat) (start : Mark) (before : List Markup) :
    TokenReading (List Markup) :=
  match fuel with
  | 0 => do throw (← get).fault
  | fuel + 1 => do
      let first ← peek
      match first.token with
      | .item =>
          skip
          let next ← peek
          let node ← if next.token = .item || next.token = .blockEnd then
              pure (Markup.empty first.stop)
            else readNode fuel true false
          readBlockItems fuel start (node :: before)
      | .blockEnd =>
          skip
          return before.reverse
      | _ => throw (.within .blockSequence start .missingItemMark first.start)

/-- Read the items of a block sequence that stands at the column of the mapping around it. -/
def readAlignedItems (fuel : Nat) (before : List Markup) : TokenReading (List Markup) :=
  match fuel with
  | 0 => do throw (← get).fault
  | fuel + 1 => do
      let first ← peek
      if first.token = .item then
        skip
        let next ← peek
        let node ← if next.token = .item || isBlockBoundary next.token then
            pure (Markup.empty first.stop)
          else readNode fuel true false
        readAlignedItems fuel (node :: before)
      else return before.reverse

/-- Read the entries of a block mapping. -/
def readBlockEntries (fuel : Nat) (start : Mark) (before : List (Markup × Markup)) :
    TokenReading (List (Markup × Markup)) :=
  match fuel with
  | 0 => do throw (← get).fault
  | fuel + 1 => do
      let first ← peek
      match first.token with
      | .key =>
          skip
          let next ← peek
          let key ← if isBlockBoundary next.token then pure (Markup.empty first.stop)
            else readNode fuel true true
          let value ← readBlockValue fuel
          readBlockEntries fuel start ((key, value) :: before)
      | .blockEnd =>
          skip
          return before.reverse
      | _ => throw (.within .blockMapping start .missingKey first.start)

/-- Read the value behind a key of a block mapping. -/
def readBlockValue (fuel : Nat) : TokenReading Markup :=
  match fuel with
  | 0 => do throw (← get).fault
  | fuel + 1 => do
      let first ← peek
      if first.token = .value then
        skip
        let next ← peek
        if isBlockBoundary next.token then return Markup.empty first.stop
        else readNode fuel true true
      else return Markup.empty first.start

/-- Read the items of a flow sequence. -/
def readFlowItems (fuel : Nat) (start : Mark) (before : List Markup) :
    TokenReading (List Markup) :=
  match fuel with
  | 0 => do throw (← get).fault
  | fuel + 1 => do
      let first ← peek
      if first.token = .comma && !before.isEmpty then skip
      else if first.token ≠ .flowSequenceEnd && !before.isEmpty then
        throw (.within .flowSequence start .missingCommaOrBracket first.start)
      let next ← peek
      match next.token with
      | .flowSequenceEnd =>
          skip
          return before.reverse
      | .key =>
          skip
          let pair ← readFlowPair fuel
          readFlowItems fuel start (.mapping next.start none none [pair] :: before)
      | _ =>
          let node ← readNode fuel false false
          readFlowItems fuel start (node :: before)

/-- Read the only entry of a mapping without braces in a flow sequence. -/
def readFlowPair (fuel : Nat) : TokenReading (Markup × Markup) :=
  match fuel with
  | 0 => do throw (← get).fault
  | fuel + 1 => do
      let first ← peek
      let key ← if first.token = .value || isSequenceBoundary first.token then do
          skip
          pure (Markup.empty first.stop)
        else readNode fuel false false
      let second ← peek
      if second.token = .value then
        skip
        let next ← peek
        if isSequenceBoundary next.token then return (key, Markup.empty next.start)
        else return (key, ← readNode fuel false false)
      else return (key, Markup.empty second.start)

/-- Read the entries of a flow mapping. -/
def readFlowEntries (fuel : Nat) (start : Mark) (before : List (Markup × Markup)) :
    TokenReading (List (Markup × Markup)) :=
  match fuel with
  | 0 => do throw (← get).fault
  | fuel + 1 => do
      let first ← peek
      if first.token = .comma && !before.isEmpty then skip
      else if first.token ≠ .flowMappingEnd && !before.isEmpty then
        throw (.within .flowMapping start .missingCommaOrBrace first.start)
      let next ← peek
      match next.token with
      | .flowMappingEnd =>
          skip
          return before.reverse
      | .key =>
          skip
          let inside ← peek
          let key ← if inside.token = .value || isMappingBoundary inside.token then
              pure (Markup.empty inside.start)
            else readNode fuel false false
          let value ← readFlowValue fuel
          readFlowEntries fuel start ((key, value) :: before)
      | _ =>
          let key ← readNode fuel false false
          let behind ← peek
          readFlowEntries fuel start ((key, Markup.empty behind.start) :: before)

/-- Read the value behind a key of a flow mapping. -/
def readFlowValue (fuel : Nat) : TokenReading Markup :=
  match fuel with
  | 0 => do throw (← get).fault
  | fuel + 1 => do
      let first ← peek
      if first.token = .value then
        skip
        let next ← peek
        if isMappingBoundary next.token then return Markup.empty next.start
        else readNode fuel false false
      else return Markup.empty first.start

end

/-! ## Documents -/

/-- The handles that need no directive. -/
def standardHandles : List (String × String) := [("!", "!"), ("!!", Tag.standardStart)]

/-- Read the directives in front of a document. -/
def readDirectives (hasVersion : Bool) (handles : List (String × String)) :
    List Lexeme → Except Fault (List (String × String) × List Lexeme)
  | [] => .ok (handles, [])
  | next :: rest =>
      match next.token with
      | .version major minor =>
          if hasVersion then .error (.plain .repeatedVersion next.start)
          else if major ≠ 1 ∨ (minor ≠ 1 ∧ minor ≠ 2) then
            .error (.plain .unsupportedVersion next.start)
          else readDirectives true handles rest
      | .tagHandle handle tagStart =>
          if handles.any fun entry => entry.1 = handle then
            .error (.plain .repeatedTagHandle next.start)
          else readDirectives hasVersion (handles ++ [(handle, tagStart)]) rest
      | _ => .ok (handles, next :: rest)

/-- Whether a token stands between documents. -/
def isDocumentBoundary : Token → Bool
  | .version _ _ => true
  | .tagHandle _ _ => true
  | .documentStart => true
  | .documentEnd => true
  | .streamEnd => true
  | _ => false

/-- Read a document; there is none in a text without content. -/
def readDocument (fuel : Nat) : TokenReading (Option Markup) := do
  let first ← peek
  match first.token with
  | .streamEnd => return none
  | .documentEnd => some <$> readNode fuel true false
  | token =>
      if !isDocumentBoundary token then some <$> readNode fuel true false
      else
        let reader ← get
        let (handles, rest) ← readDirectives false [] reader.rest
        set { reader with rest := rest, handles := handles ++ standardHandles }
        let opening ← peek
        if opening.token ≠ .documentStart then
          throw (.plain .missingDocumentStart opening.start)
        else
          skip
          let next ← peek
          if isDocumentBoundary next.token then return some (.empty next.start)
          else some <$> readNode fuel true false

/-- The fault of what follows a document. -/
def faultBehind? (rest : List Lexeme) : Option Fault :=
  match rest.dropWhile fun next => next.token = .documentEnd with
  | next :: _ => if next.token = .streamEnd then none else some (.plain .severalDocuments .start)
  | [] => some (.plain .severalDocuments .start)

/-- The fault of a text with a character that no text may hold, told with the bytes before it. -/
def forbiddenCharacter? (chars : List Char) : Option Fault :=
  let allowed := chars.takeWhile isAllowed
  if allowed.length = chars.length then none
  else some (.plain (.controlCharacter (String.ofList allowed).utf8ByteSize) .start)

/-- The document of a text, or nothing for an empty one, and the fault of what follows it. -/
def read (text : String) : Except Fault (Option Markup × Option Fault) :=
  let chars := text.toList
  match forbiddenCharacter? chars with
  | some fault => .error fault
  | none =>
      let scanned := Token.scan (normalizeBreaks chars)
      let fault := scanned.2.getD (.plain .endOfText .start)
      let reader : TokenReader := ⟨scanned.1, fault, [], standardHandles⟩
      match (readDocument (4 * scanned.1.length + 8)).run reader with
      | .error fault => .error fault
      | .ok (document?, reader) => .ok (document?, faultBehind? reader.rest)

end Markup

end ResourceTemplate.Yaml

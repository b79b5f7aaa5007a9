import ResourceTemplate.Yaml.Mark

/-!
# Faults of a text

What is wrong with a text, where it came to light, and what was being read then.
-/

namespace ResourceTemplate.Yaml

/-- What is wrong with a text. -/
inductive Problem where
  /-- A character that no text may hold, behind so many bytes. -/
  | controlCharacter (offset : Nat)
  | noToken
  | keyWithoutColon
  | misplacedItem
  | misplacedKey
  | misplacedValue
  | unknownDirective
  | unfinishedLine
  | missingDirectiveName
  | badDirectiveName
  | badVersion
  | longVersion
  | missingVersion
  | missingSpace
  | missingSpaceOrBreak
  | badAnchor
  | unclosedTag
  | missingTagMark
  | missingTag
  | badTagEscape
  | badTagLead
  | badTagTrail
  | zeroIndentation
  | tabIndentation
  | documentMark
  | endOfText
  | unknownEscape
  | missingHexDigit
  | badCodePoint
  | misplacedColon
  | tabInIndentation
  | missingDocumentStart
  | undefinedTagHandle
  | missingContent
  | missingItemMark
  | missingKey
  | missingCommaOrBracket
  | missingCommaOrBrace
  | repeatedVersion
  | unsupportedVersion
  | repeatedTagHandle
  | unknownAnchor
  | severalDocuments
deriving DecidableEq

/-- The wording of a problem. A control character is told with the bytes before it, if any. -/
def Problem.message : Problem → String
  | controlCharacter 0 => "control characters are not allowed"
  | controlCharacter offset => s!"control characters are not allowed at position {offset}"
  | noToken => "found character that cannot start any token"
  | keyWithoutColon => "could not find expected ':'"
  | misplacedItem => "block sequence entries are not allowed in this context"
  | misplacedKey => "mapping keys are not allowed in this context"
  | misplacedValue => "mapping values are not allowed in this context"
  | unknownDirective => "found unknown directive name"
  | unfinishedLine => "did not find expected comment or line break"
  | missingDirectiveName => "could not find expected directive name"
  | badDirectiveName => "found unexpected non-alphabetical character"
  | badVersion => "did not find expected digit or '.' character"
  | longVersion => "found extremely long version number"
  | missingVersion => "did not find expected version number"
  | missingSpace => "did not find expected whitespace"
  | missingSpaceOrBreak => "did not find expected whitespace or line break"
  | badAnchor => "did not find expected alphabetic or numeric character"
  | unclosedTag => "did not find the expected '>'"
  | missingTagMark => "did not find expected '!'"
  | missingTag => "did not find expected tag URI"
  | badTagEscape => "did not find URI escaped octet"
  | badTagLead => "found an incorrect leading UTF-8 octet"
  | badTagTrail => "found an incorrect trailing UTF-8 octet"
  | zeroIndentation => "found an indentation indicator equal to 0"
  | tabIndentation => "found a tab character where an indentation space is expected"
  | documentMark => "found unexpected document indicator"
  | endOfText => "found unexpected end of stream"
  | unknownEscape => "found unknown escape character"
  | missingHexDigit => "did not find expected hexdecimal number"
  | badCodePoint => "found invalid Unicode character escape code"
  | misplacedColon => "found unexpected ':'"
  | tabInIndentation => "found a tab character that violates indentation"
  | missingDocumentStart => "did not find expected <document start>"
  | undefinedTagHandle => "found undefined tag handle"
  | missingContent => "did not find expected node content"
  | missingItemMark => "did not find expected '-' indicator"
  | missingKey => "did not find expected key"
  | missingCommaOrBracket => "did not find expected ',' or ']'"
  | missingCommaOrBrace => "did not find expected ',' or '\x7d'"
  | repeatedVersion => "found duplicate %YAML directive"
  | unsupportedVersion => "found incompatible YAML document"
  | repeatedTagHandle => "found duplicate %TAG directive"
  | unknownAnchor => "unknown anchor"
  | severalDocuments =>
      "deserializing from YAML containing more than one document is not supported"

/-- What was being read. -/
inductive Context where
  | nextToken
  | simpleKey
  | directive
  | versionDirective
  | tagDirective
  | anchor
  | aliasName
  | tag
  | tagText
  | blockScalar
  | quotedScalar
  | escapes
  | plainScalar
  | node
  | blockNode
  | flowNode
  | blockSequence
  | blockMapping
  | flowSequence
  | flowMapping
deriving DecidableEq

/-- The wording of a context. -/
def Context.message : Context → String
  | nextToken => "while scanning for the next token"
  | simpleKey => "while scanning a simple key"
  | directive => "while scanning a directive"
  | versionDirective => "while scanning a %YAML directive"
  | tagDirective => "while scanning a %TAG directive"
  | anchor => "while scanning an anchor"
  | aliasName => "while scanning an alias"
  | tag => "while scanning a tag"
  | tagText => "while parsing a tag"
  | blockScalar => "while scanning a block scalar"
  | quotedScalar => "while scanning a quoted scalar"
  | escapes => "while parsing a quoted scalar"
  | plainScalar => "while scanning a plain scalar"
  | node => "while parsing a node"
  | blockNode => "while parsing a block node"
  | flowNode => "while parsing a flow node"
  | blockSequence => "while parsing a block collection"
  | blockMapping => "while parsing a block mapping"
  | flowSequence => "while parsing a flow sequence"
  | flowMapping => "while parsing a flow mapping"

/-- A fault of a text. -/
structure Fault where
  problem : Problem
  place : Mark
  /-- What was being read, and where that began. -/
  context? : Option (Context × Mark)
deriving DecidableEq

namespace Fault

/-- A fault with a context. -/
def within (context : Context) (start : Mark) (problem : Problem) (place : Mark) : Fault :=
  ⟨problem, place, some (context, start)⟩

/-- A fault on its own. -/
def plain (problem : Problem) (place : Mark) : Fault := ⟨problem, place, none⟩

/-- A place behind what is told of it; the first place of a text is not told. -/
def placeText (place : Mark) : String :=
  if place.isOrigin then "" else " at " ++ place.text

/-- The wording of a fault. -/
def message (f : Fault) : String :=
  let told := f.problem.message ++ placeText f.place
  match f.context? with
  | none => told
  | some (context, start) =>
      let place := if start.line = f.place.line ∧ start.column = f.place.column then ""
        else placeText start
      told ++ ", " ++ context.message ++ place

end Fault

end ResourceTemplate.Yaml

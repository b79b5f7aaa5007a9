import ResourceTemplate.Yaml.Mark
import ResourceTemplate.Yaml.Style

/-!
# Tokens

The tokens of a text.  The structure that indentation expresses is told by tokens without characters
of their own.
-/

namespace ResourceTemplate.Yaml

/-- A token. -/
inductive Token where
  | version (major minor : Nat)
  | tagHandle (handle tagStart : String)
  | documentStart
  | documentEnd
  | streamEnd
  | blockSequenceStart
  | blockMappingStart
  | blockEnd
  | flowSequenceStart
  | flowSequenceEnd
  | flowMappingStart
  | flowMappingEnd
  | item
  | comma
  | key
  | value
  | aliasName (name : String)
  | anchor (name : String)
  /-- A tag; the empty handle stands before a tag that is written in full. -/
  | tag (handle tagEnd : String)
  | scalar (style : Style) (text : String)
deriving DecidableEq

/-- A token with the places where it begins and ends. -/
structure Lexeme where
  token : Token
  start : Mark
  stop : Mark

end ResourceTemplate.Yaml

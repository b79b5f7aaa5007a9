import ResourceTemplate.Yaml.Reading
import ResourceTemplate.Yaml.Tree

/-!
# The content of a document

What a document says when nothing is expected of it.  A document has a content only if its keys are
distinct, its integers fit in 64 bits, and its standard tags fit the scalars that they mark.
-/

namespace ResourceTemplate.Yaml

/-- What a scalar says, if its tag fits. -/
inductive ScalarReading where
  | reading (r : Reading)
  /-- The tag asks for something else than the text is. -/
  | misfit (wanted : String)
deriving DecidableEq

namespace ScalarReading

/-- A reading, or what was wanted. -/
def ofOption (wanted : String) : Option Reading → ScalarReading
  | some r => reading r
  | none => misfit wanted

/-- What a scalar with a tag says. -/
def ofScalar (tag? : Option Tag) (style : Style) (text : String) : ScalarReading :=
  let untagged := if style = .plain then Reading.ofPlain text else .text
  match tag? with
  | some .bool => ofOption "a boolean" ((Reading.flag? text).map .bool)
  | some .integer => ofOption "an integer" (Reading.number? text)
  | some .float => ofOption "a float" (Reading.double? text)
  | some .null => ofOption "null" (if Reading.isNull text then some .null else none)
  | some .other => reading .text
  | some (.own _) => reading untagged
  | none => reading untagged

end ScalarReading

/-- The content of a document. -/
inductive Content where
  /-- A scalar that is no text. -/
  | atom (r : Reading)
  | text (s : String)
  | sequence (items : List Content)
  | mapping (entries : List (Content × Content))
  | tagged (name : String) (content : Content)

namespace Content

/-- Whether two readings are equal.  Zero has no sign. -/
def sameReading : Reading → Reading → Bool
  | .double a, .double b => a = b || (a.mantissa = 0 && b.mantissa = 0)
  | a, b => a = b

mutual

/-- Whether two contents are equal.  The order of entries does not count. -/
def same : Content → Content → Bool
  | atom a, atom b => sameReading a b
  | text a, text b => a = b
  | sequence as, sequence bs => sameItems as bs
  | mapping as, mapping bs => as.length = bs.length && sameEntries as bs
  | tagged n a, tagged m b => n = m && same a b
  | _, _ => false

/-- Whether items are equal one by one. -/
def sameItems : List Content → List Content → Bool
  | [], [] => true
  | a :: as, b :: bs => same a b && sameItems as bs
  | _, _ => false

/-- Whether every entry is among others. -/
def sameEntries : List (Content × Content) → List (Content × Content) → Bool
  | [], _ => true
  | (key, value) :: rest, others =>
      (others.any fun entry => same key entry.1 && same value entry.2) && sameEntries rest others

end

/-- The content of a node with a tag. -/
def mark (tag? : Option Tag) (content : Content) : Content :=
  match tag? with
  | some (.own name) => tagged name content
  | _ => content

/-- The content of a scalar. -/
def ofScalar? (tag? : Option Tag) (style : Style) (written : String) : Option Content :=
  match ScalarReading.ofScalar tag? style written with
  | .misfit _ => none
  | .reading (.wide _) => none
  | .reading r => some (mark tag? (if r = Reading.text then text written else atom r))

mutual

/-- The content of a tree. -/
def ofTree? : Tree → Option Content
  | .scalar _ _ tag? style written => ofScalar? tag? style written
  | .sequence _ tag? items => (ofItems? items).map fun contents => mark tag? (sequence contents)
  | .mapping _ tag? entries =>
      (ofEntries? [] entries).map fun contents => mark tag? (mapping contents)
  | .beyond _ => none

/-- The contents of items. -/
def ofItems? : List Tree → Option (List Content)
  | [] => some []
  | item :: rest =>
      match ofTree? item with
      | none => none
      | some content => (ofItems? rest).map (content :: ·)

/-- The contents of entries, added to those before, none of which has the same key. -/
def ofEntries? (before : List (Content × Content)) :
    List (Tree × Tree) → Option (List (Content × Content))
  | [] => some before
  | (key, value) :: rest =>
      match ofTree? key, ofTree? value with
      | some key, some value =>
          if before.any fun entry => same key entry.1 then none
          else ofEntries? (before ++ [(key, value)]) rest
      | _, _ => none

end

end Content

end ResourceTemplate.Yaml

import ResourceTemplate.Yaml.Fault
import ResourceTemplate.Yaml.Scalar.Gap

/-!
# Plain scalars

A plain scalar goes on until a colon or a hash with spacing on its side, a document mark, or, in a
flow collection, a bracket or a comma; on further lines it must stand to the right of what contains
it.
-/

namespace ResourceTemplate.Yaml

/-- A plain scalar that has been read. -/
structure PlainScalar where
  text : String
  /-- The place behind its last character. -/
  stop : Mark
  /-- Where reading goes on. -/
  cursor : Cursor
  /-- Whether a line break was passed behind it. -/
  isBroken : Bool

/-- Where a plain scalar is read: in a flow collection or not, and from which column on. -/
structure PlainPlace where
  inFlow : Bool
  column : Int
  start : Mark

namespace PlainScalar

/-- Whether a character in front of others ends a word. -/
def endsWord (inFlow : Bool) (c : Char) (rest : List Char) : Bool :=
  (c = ':' && atSpacing rest) || (inFlow && isFlowIndicator c)

/-- Whether a colon stands where it can neither end a word nor belong to it. -/
def isBadColon (inFlow : Bool) (c : Char) (rest : List Char) : Bool :=
  inFlow && c = ':' && rest.head?.any fun d => d = '?' || isFlowIndicator d

/-- Whether a scalar ends behind spacing. -/
def endsAtGap (place : PlainPlace) (m : Mark) (rest : List Char) : Bool :=
  (!place.inFlow && (m.column : Int) < place.column) || isDocumentMark m rest ||
    rest.head? = some '#'

/-- Read a plain scalar.  The characters read so far are given in reverse, with the place behind the
last of them and the spacing that was met since. -/
def read (place : PlainPlace) (done : List Char) (stop : Mark) (gap? : Option Gap) (m : Mark) :
    List Char → Except Fault PlainScalar
  | [] =>
      .ok ⟨String.ofList done.reverse, stop, ⟨m, []⟩, gap?.any Gap.isBroken⟩
  | c :: rest =>
      let gap := gap?.getD Gap.empty
      if isSpacing c then
        if c = '\t' && gap.isBroken && decide ((m.column : Int) < place.column) then
          .error (.within .plainScalar place.start .tabInIndentation m)
        else read place done stop (some (gap.add c)) (m.after c) rest
      else if (gap?.isSome && endsAtGap place m (c :: rest)) || endsWord place.inFlow c rest then
        .ok ⟨String.ofList done.reverse, stop, ⟨m, c :: rest⟩, gap.isBroken⟩
      else if isBadColon place.inFlow c rest then
        .error (.within .plainScalar place.start .misplacedColon m)
      else
        let next := m.after c
        read place (c :: gap.fold.reverse ++ done) next none next rest

end PlainScalar

end ResourceTemplate.Yaml

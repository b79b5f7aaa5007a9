import ResourceTemplate.Document.Node
import ResourceTemplate.Yaml.Content
import ResourceTemplate.Yaml.Markup.Read

/-!
# Texts as documents

The scalars of a document have several readings: as a text, a scalar is what is written, whatever
its tag; where any value may stand, it is what it is written like.  Where an optional part is
expected, nothing and the word for it are the same, and an empty scalar may stand for an empty
collection.
-/

namespace ResourceTemplate.Yaml

open Document

/-- What messages call a reading of a text. -/
def Reading.found (text : String) : Reading → Found
  | .null => .unit
  | .bool b => .boolean b
  | .integer i => .integer i
  | .wide i => .wideInteger i
  | .double d => .floating d
  | .infinity negative => .unbounded (if negative then "-inf" else "inf")
  | .notANumber => .unbounded "NaN"
  | .text => .text text

/-- The value of a reading of a text.  What is not finite is written as nothing. -/
def Reading.value (text : String) : Reading → Except Cause Json
  | .null => .ok .null
  | .bool b => .ok (.bool b)
  | .integer i => .ok (.ofInt i)
  | .wide i => .error (.unexpectedType (.wideInteger i) Node.anyValue)
  | .double d => .ok (.number (.double d))
  | .infinity _ => .ok .null
  | .notANumber => .ok .null
  | .text => .ok (.string text)

/-- The cause that a scalar does not fit its tag. -/
def misfitCause (text wanted : String) : Cause := .unexpectedValue (.text text) wanted

/-- The value of a scalar where any value may stand. -/
def freeValue (tag? : Option Tag) (style : Style) (text : String) : Except Cause Json :=
  if tag?.any Tag.isOwn then .error (.unexpectedType .tagged Node.anyValue)
  else
    match ScalarReading.ofScalar tag? style text with
    | .reading r => r.value text
    | .misfit wanted => .error (misfitCause text wanted)

/-- Whether an optional part that is written like this counts as not written. -/
def absence (tag? : Option Tag) (style : Style) (text : String) : Except Cause Bool :=
  if style ≠ .plain then .ok false
  else
    match tag? with
    | none => .ok (text = "" || Reading.isNull text)
    | some .null => if Reading.isNull text then .ok true else .error (misfitCause text "null")
    | some _ => .ok false

/-- Whether a scalar may be read as something else than a text, which a literal scalar may with a
tag that asks for it. -/
def isTyped (wanted : Tag) (tag? : Option Tag) (style : Style) : Bool :=
  style = .plain || (style = .literal && tag? = some wanted)

/-- The readings of a scalar. -/
def scalarOf (direct : Bool) (tag? : Option Tag) (style : Style) (text : String) : Scalar :=
  { found := match ScalarReading.ofScalar tag? style text with
      | .reading r => r.found text
      | .misfit _ => .text text
    text? := some text
    label? := if direct then some text else none
    flag? := if isTyped .bool tag? style then Reading.flag? text else none
    integer? :=
      if isTyped .integer tag? style then (Reading.integer? text).filter (Reading.fits 63 63)
      else none
    free := freeValue tag? style text
    absence := absence tag? style text
    hollow := style = .plain && text = "" }

namespace Tree

/-- Whether a collection with a tag may stand where any value may stand. -/
def isLoose (tag? : Option Tag) : Bool := !tag?.any Tag.isOwn

mutual

/-- The document of a tree. -/
def node : Tree → Node Mark
  | scalar place direct tag? style text => .scalar place (scalarOf direct tag? style text)
  | sequence place tag? items => .sequence place (isLoose tag?) (nodes items)
  | mapping place tag? entries => .mapping place (isLoose tag?) (nodePairs entries)
  | beyond place => .unreadable place

/-- The documents of items. -/
def nodes : List Tree → List (Node Mark)
  | [] => []
  | item :: rest => item.node :: nodes rest

/-- The documents of entries. -/
def nodePairs : List (Tree × Tree) → List (Node Mark × Node Mark)
  | [] => []
  | (key, value) :: rest => (key.node, value.node) :: nodePairs rest

end

end Tree

/-! ## Reading at a type -/

/-- Why a text cannot be read at a type. -/
inductive DecodeError where
  | fault (f : Fault)
  | violation (cause : Cause) (path : List Step) (place : Mark)
deriving DecidableEq

/-- The wording of the error: the path, unless it is that of the root, the cause and the place. -/
def DecodeError.message : DecodeError → String
  | fault f => f.message
  | violation cause path place =>
      (match pathText path with
        | some path => path ++ ": "
        | none => "") ++ cause.message ++ Fault.placeText place

/-- The tree of a text, and the fault of what follows it. -/
def readTree (text : String) : Except Fault (Tree × Option Fault) :=
  (Markup.read text).map fun result =>
    ((result.1.map Tree.ofMarkup).getD .empty, result.2)

/-- Whether a text has a content of its own. -/
def hasContent (text : String) : Bool :=
  match readTree text with
  | .ok (tree, none) => (Content.ofTree? tree).isSome
  | _ => false

/-- Read a text at a type. -/
def decode {α : Type} (read : Node Mark → Except (Violation Mark) α) (text : String) :
    Except DecodeError α :=
  match readTree text with
  | .error fault => .error (.fault fault)
  | .ok (tree, fault?) =>
      match read tree.node, fault? with
      | .error v, _ => .error (.violation v.cause v.path v.place)
      | .ok _, some fault => .error (.fault fault)
      | .ok value, none => .ok value

end ResourceTemplate.Yaml

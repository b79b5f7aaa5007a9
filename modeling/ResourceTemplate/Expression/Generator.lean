import ResourceTemplate.Dict
import ResourceTemplate.Expression.Alphabet
import ResourceTemplate.Expression.Block
import ResourceTemplate.Expression.WordSource

/-!
# Generators of parameter values

The value of an expression keeps the text outside the blocks and puts as many drawn characters in
the place of each block as its length says.  The pieces are taken from left to right; the first
block that has no alphabet or no valid length ends the work, and words drawn before stay drawn.

A set of generators is a machine with a state: asked for a generator by name, it either knows none
or answers an expression and moves on to its next state.
-/

namespace ResourceTemplate.Expression

/-- The greatest length of a block. -/
def maxLength : Nat := 255

/-- The number that decimal digits stand for. -/
def decimalValue (digits : List Char) : Nat :=
  digits.foldl (fun n c => n * 10 + (c.toNat - '0'.toNat)) 0

/-- The length of a block as a number. -/
def readLength (length : List Char) : Except GeneratorError Nat :=
  let n := decimalValue length
  if length.all Char.isDigit && 1 ≤ n && n ≤ maxLength then .ok n
  else .error (.badLength (String.ofList length))

section Drawing

variable {Source : Type} [Drawer Source]

/-- Draw characters from an alphabet. -/
def drawChars (alphabet : List Char) : Nat → Source → List Char × Source
  | 0, source => ([], source)
  | count + 1, source =>
      let drawn := Drawer.draw alphabet.length source
      let rest := drawChars alphabet count drawn.2
      ((alphabet.getD drawn.1 '0') :: rest.1, rest.2)

/-- The alphabet and the number of characters that a block asks for. -/
def Block.demand (b : Block) : Except GeneratorError (List Char × Nat) := do
  let chars ← alphabet b.body
  let count ← readLength b.length
  return (chars, count)

/-- The value of the pieces of an expression. -/
def expand : List Piece → Source → Except GeneratorError (List Char) × Source
  | [], source => (.ok [], source)
  | .kept c :: rest, source =>
      let expanded := expand rest source
      (expanded.1.map (c :: ·), expanded.2)
  | .block b :: rest, source =>
      match b.demand with
      | .error e => (.error e, source)
      | .ok demand =>
          let drawn := drawChars demand.1 demand.2 source
          let expanded := expand rest drawn.2
          (expanded.1.map (drawn.1 ++ ·), expanded.2)

/-- The value of an expression. -/
def generate (expression : String) (source : Source) :
    Except GeneratorError String × Source :=
  let expanded := expand (pieces expression.toList) source
  (expanded.1.map String.ofList, expanded.2)

end Drawing

/-- Generators known by name, with a common state. -/
structure GeneratorSet (State : Type) where
  /-- The answer of the generator of a name to an expression; nothing for an unknown name. -/
  call? : (name : String) → Option (String → State → Except GeneratorError String × State)

/-- A generator of one of three kinds. -/
inductive Generator where
  /-- Draws the value of the expression. -/
  | expression (source : WordSource)
  /-- Always gives the same value. -/
  | fixed (value : String)
  /-- Always refuses the expression. -/
  | refusing

/-- The answer of a generator and what the generator becomes. -/
def Generator.answer (generator : Generator) (expression : String) :
    Except GeneratorError String × Generator :=
  match generator with
  | .expression source =>
      let generated := generate expression source
      (generated.1, .expression generated.2)
  | .fixed value => (.ok value, .fixed value)
  | .refusing => (.error (.malformed expression), .refusing)

/-- The set of the generators in a dictionary; its state is the dictionary. -/
def GeneratorSet.ofDict (generators : Dict Generator) : GeneratorSet (Dict Generator) where
  call? name :=
    if generators.has name then
      some fun expression state =>
        match Dict.find? state name with
        | some generator =>
            let answer := generator.answer expression
            (answer.1, state.insert name answer.2)
        | none => (.error (.malformed expression), state)
    else none

/-- The name of the generator that every rendering has. -/
def standardName : String := "expression"

/-- The generators of a rendering that was given none. -/
def standardGenerators (seed : UInt64) : Dict Generator :=
  [(standardName, .expression ⟨[], seed⟩)]

end ResourceTemplate.Expression

/-!
# Base64 texts

A text is read in quads of symbols; the last quad may be padded, and then must be padded to its full
length.  The bits of the last symbol that belong to no byte must be zero.  `Base64.fault?` tells the
first thing that is wrong with a text.
-/

namespace ResourceTemplate.Base64

/-- What is wrong with a text. -/
inductive Fault where
  | badSymbol (byte offset : Nat)
  | badLength (length : Nat)
  | badLastSymbol (byte offset : Nat)
  | badPadding
deriving DecidableEq

/-- The wording of a fault. -/
def Fault.message : Fault → String
  | badSymbol byte offset => s!"Invalid symbol {byte}, offset {offset}."
  | badLength length => s!"Invalid input length: {length}"
  | badLastSymbol byte offset => s!"Invalid last symbol {byte}, offset {offset}."
  | badPadding => "Invalid padding"

/-- The byte that pads. -/
def pad : Nat := 61

/-- The six bits of a symbol. -/
def symbolValue? (byte : Nat) : Option Nat :=
  if 65 ≤ byte ∧ byte ≤ 90 then some (byte - 65)
  else if 97 ≤ byte ∧ byte ≤ 122 then some (byte - 71)
  else if 48 ≤ byte ∧ byte ≤ 57 then some (byte + 4)
  else if byte = 43 then some 62
  else if byte = 47 then some 63
  else none

/-- The first byte that is no symbol, with its offset. -/
def firstNonSymbol? (offset : Nat) : List Nat → Option Fault
  | [] => none
  | byte :: rest =>
      match symbolValue? byte with
      | none => some (.badSymbol byte offset)
      | some _ => firstNonSymbol? (offset + 1) rest

/-- The symbols of the last quad and the offset of its padding, read so far. -/
structure Suffix where
  values : List Nat
  lastByte : Nat
  padStart : Nat
  padCount : Nat

/-- Read the last quad, which begins at an offset; `index` bytes of it have been read. -/
def readSuffix (start index : Nat) (s : Suffix) : List Nat → Except Fault Suffix
  | [] => .ok s
  | byte :: rest =>
      if byte = pad then
        if index < 2 then .error (.badSymbol byte (start + index))
        else
          let padStart := if s.padCount = 0 then index else s.padStart
          readSuffix start (index + 1) { s with padStart := padStart, padCount := s.padCount + 1 }
            rest
      else if 0 < s.padCount then .error (.badSymbol pad (start + s.padStart))
      else
        match symbolValue? byte with
        | none => .error (.badSymbol byte (start + index))
        | some v =>
            readSuffix start (index + 1) { s with values := s.values ++ [v], lastByte := byte } rest

/-- The bits of the last quad that belong to no byte. -/
def spareBits (values : List Nat) : Nat :=
  match values with
  | [_, b] => b % 16
  | [_, _, c] => c % 4
  | _ => 0

/-- What is wrong with the last quad. -/
def suffixFault? (isEmpty : Bool) (start : Nat) (bytes : List Nat) : Option Fault :=
  match readSuffix start 0 ⟨[], 0, 0, 0⟩ bytes with
  | .error fault => some fault
  | .ok s =>
      let count := s.values.length
      if !isEmpty && count < 2 then some (.badLength (start + count))
      else if (s.padCount + count) % 4 ≠ 0 then some .badPadding
      else if spareBits s.values ≠ 0 then some (.badLastSymbol s.lastByte (start + count - 1))
      else none

/-- The first thing that is wrong with a text of bytes. -/
def fault? (bytes : List Nat) : Option Fault :=
  let length := bytes.length
  let rem := length % 4
  let last := bytes.getLast?.getD pad
  if rem = 1 ∧ last ≠ pad ∧ symbolValue? last = none then some (.badSymbol last (length - 1))
  else
    let lead := length - rem - (if rem = 0 then 4 else 0)
    match firstNonSymbol? 0 (bytes.take lead) with
    | some fault => some fault
    | none => suffixFault? bytes.isEmpty lead (bytes.drop lead)

end ResourceTemplate.Base64

/-!
# Targets of requests

The target of a request is a path, and a query behind the first question mark.  Most visible ASCII
characters and all others beyond ASCII may stand in it as they are; a hash ends it.  A text that is
too long is no target, be it that a hash would cut it.
-/

namespace ResourceTemplate.Cluster

/-- Whether a character may stand in the path of a target. -/
def isPathChar (c : Char) : Bool :=
  0x21 ≤ c.toNat && c ≠ '<' && c ≠ '>' && c ≠ '\x60'

/-- Whether a character may stand in the query of a target. -/
def isQueryChar (c : Char) : Bool :=
  0x21 ≤ c.toNat && c ≠ '"' && c ≠ '<' && c ≠ '>'

/-- The query of a target up to its end. -/
def queryTarget : List Char → Option (List Char)
  | [] => some []
  | c :: rest =>
      if c = '#' then some []
      else if isQueryChar c then (queryTarget rest).map (c :: ·)
      else none

/-- A target up to its end, or nothing when a character may not stand in it. -/
def pathTarget : List Char → Option (List Char)
  | [] => some []
  | c :: rest =>
      if c = '#' then some []
      else if c = '?' then (queryTarget rest).map (c :: ·)
      else if isPathChar c then (pathTarget rest).map (c :: ·)
      else none

/-- Why a text is no target. -/
inductive TargetFault where
  /-- A character may not stand in a target. -/
  | badCharacter
  | tooLong
deriving DecidableEq

/-- The wording of a fault. -/
def TargetFault.message : TargetFault → String
  | badCharacter => "invalid uri character"
  | tooLong => "uri too long"

/-- The length in bytes of the longest text that may be a target. -/
def targetLimit : Nat := 65534

/-- The target of a request as it is sent. -/
def targetOf (text : String) : Except TargetFault String :=
  if targetLimit < text.utf8ByteSize then .error .tooLong
  else
    match pathTarget text.toList with
    | some chars => .ok (String.ofList chars)
    | none => .error .badCharacter

end ResourceTemplate.Cluster

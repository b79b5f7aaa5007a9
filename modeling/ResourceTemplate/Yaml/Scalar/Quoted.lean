import ResourceTemplate.Text.Hexadecimal
import ResourceTemplate.Yaml.Fault
import ResourceTemplate.Yaml.Scalar.Gap

/-!
# Quoted scalars

Between single quotes, a quote is written twice.  Between double quotes, a backslash begins an
escape; an escaped line break is no break at all.
-/

namespace ResourceTemplate.Yaml

/-- The character of an escape of one letter. -/
def escapedLetter? (c : Char) : Option Char :=
  match c with
  | '0' => some '\x00'
  | 'a' => some '\x07'
  | 'b' => some '\x08'
  | 't' => some '\t'
  | '\t' => some '\t'
  | 'n' => some '\n'
  | 'v' => some '\x0b'
  | 'f' => some '\x0c'
  | 'r' => some '\r'
  | 'e' => some '\x1b'
  | ' ' => some ' '
  | '"' => some '"'
  | '/' => some '/'
  | '\\' => some '\\'
  | 'N' => some '\u0085'
  | '_' => some '\u00a0'
  | 'L' => some '\u2028'
  | 'P' => some '\u2029'
  | _ => none

/-- The character of a code point that is written in an escape. -/
def escapedCodePoint (start place : Mark) (digits : List Char) : Except Fault Char :=
  match Text.digits? 16 digits with
  | none => .error (.within .escapes start .missingHexDigit place)
  | some n =>
      if (0xD800 ≤ n ∧ n ≤ 0xDFFF) ∨ 0x10FFFF < n then
        .error (.within .escapes start .badCodePoint place)
      else .ok (Char.ofNat n)

/-- Read a text behind a single quote, up to the closing one. -/
def readSingleQuoted (start : Mark) (done : List Char) (gap? : Option Gap) (m : Mark) :
    List Char → Except Fault (String × Cursor)
  | [] => .error (.within .quotedScalar start .endOfText m)
  | '\'' :: '\'' :: rest =>
      let joined := (gap?.getD Gap.empty).fold.reverse ++ done
      readSingleQuoted start ('\'' :: joined) none ((m.after '\'').after '\'') rest
  | c :: rest =>
      let gap := gap?.getD Gap.empty
      let joined := gap.fold.reverse ++ done
      if isSpacing c then readSingleQuoted start done (some (gap.add c)) (m.after c) rest
      else if gap?.isSome && isDocumentMark m (c :: rest) then
        .error (.within .quotedScalar start .documentMark m)
      else if c = '\'' then .ok (String.ofList joined.reverse, ⟨m.after c, rest⟩)
      else readSingleQuoted start (c :: joined) none (m.after c) rest

/-- Read a text behind a double quote, up to the closing one. -/
def readDoubleQuoted (start : Mark) (done : List Char) (gap? : Option Gap) (m : Mark) :
    List Char → Except Fault (String × Cursor)
  | [] => .error (.within .quotedScalar start .endOfText m)
  | '\\' :: 'x' :: a :: b :: rest =>
      let joined := (gap?.getD Gap.empty).fold.reverse ++ done
      match escapedCodePoint start (m.afterAll ['\\', 'x']) [a, b] with
      | .error fault => .error fault
      | .ok c => readDoubleQuoted start (c :: joined) none (m.afterAll ['\\', 'x', a, b]) rest
  | '\\' :: 'u' :: a :: b :: c :: d :: rest =>
      let joined := (gap?.getD Gap.empty).fold.reverse ++ done
      match escapedCodePoint start (m.afterAll ['\\', 'u']) [a, b, c, d] with
      | .error fault => .error fault
      | .ok e =>
          readDoubleQuoted start (e :: joined) none (m.afterAll ['\\', 'u', a, b, c, d]) rest
  | '\\' :: 'U' :: a :: b :: c :: d :: e :: f :: g :: h :: rest =>
      let joined := (gap?.getD Gap.empty).fold.reverse ++ done
      match escapedCodePoint start (m.afterAll ['\\', 'U']) [a, b, c, d, e, f, g, h] with
      | .error fault => .error fault
      | .ok i =>
          readDoubleQuoted start (i :: joined) none
            (m.afterAll ['\\', 'U', a, b, c, d, e, f, g, h]) rest
  | '\\' :: c :: rest =>
      let joined := (gap?.getD Gap.empty).fold.reverse ++ done
      if isBreak c then
        readDoubleQuoted start joined (some Gap.escaped) (m.afterAll ['\\', c]) rest
      else
        match escapedLetter? c with
        | some e => readDoubleQuoted start (e :: joined) none (m.afterAll ['\\', c]) rest
        | none =>
            let problem := if ['x', 'u', 'U'].contains c then Problem.missingHexDigit
              else .unknownEscape
            .error (.within .escapes start problem m)
  | c :: rest =>
      let gap := gap?.getD Gap.empty
      let joined := gap.fold.reverse ++ done
      if isSpacing c then readDoubleQuoted start done (some (gap.add c)) (m.after c) rest
      else if gap?.isSome && isDocumentMark m (c :: rest) then
        .error (.within .quotedScalar start .documentMark m)
      else if c = '\\' then .error (.within .escapes start .unknownEscape m)
      else if c = '"' then .ok (String.ofList joined.reverse, ⟨m.after c, rest⟩)
      else readDoubleQuoted start (c :: joined) none (m.after c) rest

end ResourceTemplate.Yaml

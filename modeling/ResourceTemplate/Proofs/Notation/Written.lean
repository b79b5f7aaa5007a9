import ResourceTemplate.Json.Reader
import ResourceTemplate.Proofs.Json.Numeral
import ResourceTemplate.Yaml.Document

/-!
# The notation that JSON and YAML share

Nearly every JSON text is a YAML text of the same content.  Here is what such a text is made of:
glyphs in strings, words, and signs with gaps between them.  The parts carry what makes both
notations agree on them, so that nothing else can be written with them:

* a string has no pair of escapes for one character, and no character that may not stand in a YAML
  text or that ends a line there;
* a key stands on one line with its colon, and not too far from it;
* a numeral stands for one and the same number in both notations;
* outside of all brackets there are no tabulators.

A document has a shape, the shape has a sequence of signs, and a text is written with them when it
has these signs in order and gaps in front of and behind them.
-/

namespace ResourceTemplate.Notation

/-! ## Glyphs -/

/-- Whether a character may stand in a string as it is. -/
def isPlain (c : Char) : Bool :=
  Yaml.isAllowed c && !Yaml.isBreak c && decide (0x20 ≤ c.toNat) && decide (c ≠ '"') &&
    decide (c ≠ '\\')

theorem isPlain_iff {c : Char} : isPlain c = true ↔
    Yaml.isAllowed c = true ∧ Yaml.isBreak c = false ∧ 0x20 ≤ c.toNat ∧ c ≠ '"' ∧ c ≠ '\\' := by
  simp only [isPlain, Bool.and_eq_true, Bool.not_eq_true', decide_eq_true_eq, and_assoc]

/-- How one character of a string is written. -/
inductive Glyph where
  /-- The character itself. -/
  | plain (c : Char) (h : isPlain c = true)
  /-- A letter behind a backslash. -/
  | letter (e c : Char) (h : Json.simpleEscape? e = some c)
  /-- Four hexadecimal digits, which are not one half of a pair. -/
  | digits (a b c d : Char) (n : Nat) (h : Text.digits? 16 [a, b, c, d] = some n)
      (hhigh : Json.isHighSurrogate n = false) (hlow : Json.isLowSurrogate n = false)

namespace Glyph

/-- The characters of a glyph. -/
def chars : Glyph → List Char
  | plain c _ => [c]
  | letter e _ _ => ['\\', e]
  | digits a b c d _ _ _ _ => ['\\', 'u', a, b, c, d]

/-- The character that a glyph stands for. -/
def char : Glyph → Char
  | plain c _ => c
  | letter _ c _ => c
  | digits _ _ _ _ n _ _ _ => Char.ofNat n

end Glyph

/-- The text that glyphs stand for. -/
def textOf (glyphs : List Glyph) : String := String.ofList (glyphs.map Glyph.char)

/-- Glyphs between quotes. -/
def quoted (glyphs : List Glyph) : List Char := '"' :: (glyphs.flatMap Glyph.chars ++ ['"'])

/-! ## Words -/

/-- Characters that are a numeral of the same number in both notations. -/
structure Numeral (chars : List Char) (number : Number) : Prop where
  allowed : ∀ c ∈ chars, Json.isNumeralChar c = true
  json : Json.wholeNumber? chars = some number
  yaml : (Yaml.Reading.ofPlain (String.ofList chars)).value (String.ofList chars) =
    .ok (.number number)

/-- What is written without quotes. -/
inductive Word where
  | null
  | flag (b : Bool)
  | numeral (chars : List Char) (number : Number) (h : Numeral chars number)

namespace Word

/-- The characters of a word. -/
def chars : Word → List Char
  | null => ['n', 'u', 'l', 'l']
  | flag true => ['t', 'r', 'u', 'e']
  | flag false => ['f', 'a', 'l', 's', 'e']
  | numeral chars _ _ => chars

/-- The value of a word. -/
def value : Word → Json
  | null => .null
  | flag b => .bool b
  | numeral _ number _ => .number number

end Word

/-- A numeral begins with a digit, or with a minus in front of one. -/
theorem Numeral.exists_head {chars : List Char} {number : Number} (h : Numeral chars number) :
    ∃ c tail, chars = c :: tail ∧
      (c.isDigit = true ∨ c = '-' ∧ ∃ d rest, tail = d :: rest ∧ d.isDigit = true) := by
  rcases Json.wholeNumber?_eq_some h.json with ⟨digits, stop, rfl, hread⟩ | ⟨stop, hread⟩
  · obtain ⟨d, rest, hdigits, hdigit⟩ := Json.exists_digit_of_readNumeral hread
    exact ⟨'-', digits, rfl, .inr ⟨rfl, d, rest, hdigits, hdigit⟩⟩
  · obtain ⟨d, rest, hdigits, hdigit⟩ := Json.exists_digit_of_readNumeral hread
    exact ⟨d, rest, hdigits, .inl hdigit⟩

/-! ## Signs -/

/-- A key with what stands between it and its colon. -/
structure Key where
  glyphs : List Glyph
  gap : List Char
  blank : ∀ c ∈ gap, Yaml.isBlank c = true
  /-- The colon is not too far from where the key begins. -/
  short : (quoted glyphs ++ gap).length ≤ Yaml.Scanner.keyLimit

/-- What gaps stand between. -/
inductive Sign where
  | openArray
  | closeArray
  | openObject
  | closeObject
  | comma
  /-- A key with its colon. -/
  | key (k : Key)
  | text (glyphs : List Glyph)
  | word (w : Word)

namespace Sign

/-- The characters of a sign. -/
def chars : Sign → List Char
  | openArray => ['[']
  | closeArray => [']']
  | openObject => ['\x7b']
  | closeObject => ['\x7d']
  | comma => [',']
  | key k => quoted k.glyphs ++ k.gap ++ [':']
  | text glyphs => quoted glyphs
  | word w => w.chars

/-- The number of open brackets behind a sign that is itself inside one more than `depth`. -/
def depthBehind (depth : Nat) : Sign → Nat
  | openArray => depth + 2
  | openObject => depth + 2
  | closeArray => depth
  | closeObject => depth
  | _ => depth + 1

/-- Whether a sign ends what stands before it. -/
def isSeparator : Sign → Bool
  | comma => true
  | closeArray => true
  | closeObject => true
  | _ => false

/-- Every sign begins with a character that is not blank. -/
theorem exists_chars_eq_cons (sign : Sign) :
    ∃ c tail, sign.chars = c :: tail ∧ Json.Cursor.isBlank c = false := by
  cases sign with
  | openArray => exact ⟨'[', [], rfl, rfl⟩
  | closeArray => exact ⟨']', [], rfl, rfl⟩
  | openObject => exact ⟨'\x7b', [], rfl, rfl⟩
  | closeObject => exact ⟨'\x7d', [], rfl, rfl⟩
  | comma => exact ⟨',', [], rfl, rfl⟩
  | key k => exact ⟨'"', _, rfl, rfl⟩
  | text glyphs => exact ⟨'"', _, rfl, rfl⟩
  | word w =>
      cases w with
      | null => exact ⟨'n', _, rfl, rfl⟩
      | flag b =>
          cases b with
          | true => exact ⟨'t', _, rfl, rfl⟩
          | false => exact ⟨'f', _, rfl, rfl⟩
      | numeral chars number h =>
          obtain ⟨c, tail, rfl, hdigit | ⟨rfl, -⟩⟩ := h.exists_head
          · refine ⟨c, tail, rfl, ?_⟩
            cases hblank : Json.Cursor.isBlank c with
            | false => rfl
            | true =>
                simp only [Json.Cursor.isBlank, Bool.or_eq_true, decide_eq_true_eq] at hblank
                rcases hblank with ((rfl | rfl) | rfl) | rfl <;> simp at hdigit
          · exact ⟨'-', tail, rfl, rfl⟩

end Sign

/-- A comma or a closing bracket comes next. -/
def Separated (signs : List Sign) : Prop :=
  ∃ sign rest, signs = sign :: rest ∧ sign.isSeparator = true

/-- Characters that stand between signs, inside so many brackets. -/
def IsGap (depth : Nat) (gap : List Char) : Prop :=
  ∀ c ∈ gap, Json.Cursor.isBlank c = true ∧ (depth = 0 → c ≠ '\t')

/-- Between a key and its colon there is a gap. -/
theorem Key.isGap (k : Key) (depth : Nat) : IsGap (depth + 1) k.gap := by
  intro c hc
  have hblank := k.blank c hc
  simp only [Yaml.isBlank, Bool.or_eq_true, decide_eq_true_eq] at hblank
  refine ⟨?_, by simp⟩
  rcases hblank with rfl | rfl <;> rfl

/-- A text inside so many brackets is written with signs, of which the last closes the outermost
bracket. -/
inductive Written : Nat → List Sign → List Char → Prop where
  | nil {gap : List Char} (hgap : IsGap 0 gap) : Written 0 [] gap
  | cons {depth : Nat} {gap : List Char} {sign : Sign} {signs : List Sign} {rest : List Char}
      (hgap : IsGap (depth + 1) gap) (hrest : Written (sign.depthBehind depth) signs rest) :
      Written (depth + 1) (sign :: signs) (gap ++ (sign.chars ++ rest))

/-- Behind its first sign a text is written with the others. -/
theorem Written.of_cons {depth : Nat} {sign : Sign} {signs : List Sign} {chars : List Char}
    (h : Written (depth + 1) (sign :: signs) chars) :
    ∃ rest, Written (sign.depthBehind depth) signs rest := by
  cases h with
  | cons hgap hrest => exact ⟨_, hrest⟩

/-! ## Shapes -/

/-- What a document is made of, without its gaps. -/
inductive Shape where
  | word (w : Word)
  | text (glyphs : List Glyph)
  | array (items : List Shape)
  | object (members : List (Key × Shape))

namespace Shape

/-- The sign in front of a part; in front of the first there is none. -/
def before (first : Bool) : List Sign := if first then [] else [.comma]

mutual

/-- The signs of a shape. -/
def signs : Shape → List Sign
  | word w => [.word w]
  | text glyphs => [.text glyphs]
  | array items => .openArray :: (itemSigns true items ++ [.closeArray])
  | object members => .openObject :: (memberSigns true members ++ [.closeObject])

/-- The signs of items. -/
def itemSigns (first : Bool) : List Shape → List Sign
  | [] => []
  | item :: rest => before first ++ (signs item ++ itemSigns false rest)

/-- The signs of members. -/
def memberSigns (first : Bool) : List (Key × Shape) → List Sign
  | [] => []
  | (key, value) :: rest => before first ++ (.key key :: (signs value ++ memberSigns false rest))

end

mutual

/-- How deep brackets are nested. -/
def height : Shape → Nat
  | word _ => 0
  | text _ => 0
  | array items => itemsHeight items + 1
  | object members => membersHeight members + 1

/-- How deep brackets are nested in items. -/
def itemsHeight : List Shape → Nat
  | [] => 0
  | item :: rest => max (height item) (itemsHeight rest)

/-- How deep brackets are nested in members. -/
def membersHeight : List (Key × Shape) → Nat
  | [] => 0
  | (_, value) :: rest => max (height value) (membersHeight rest)

end

end Shape

/-- How a notation reads words and strings. -/
structure Dialect where
  word : Word → Document.Scalar
  text : String → Document.Scalar

namespace Dialect

/-- JSON reads words and strings as what they are. -/
def json : Dialect := ⟨fun w => Json.scalarOf w.value, fun s => Json.scalarOf (.string s)⟩

/-- YAML reads words as plain scalars and strings as quoted ones. -/
def yaml : Dialect where
  word w := Yaml.scalarOf true none .plain (String.ofList w.chars)
  text s := Yaml.scalarOf true none .doubleQuoted s

variable {Place : Type}

mutual

/-- A document is what a notation makes of a shape. -/
def Spells (dialect : Dialect) : Shape → Document.Node Place → Prop
  | .word w, .scalar _ s => s = dialect.word w
  | .text glyphs, .scalar _ s => s = dialect.text (textOf glyphs)
  | .array items, .sequence _ loose nodes => loose = true ∧ SpellsItems dialect items nodes
  | .object members, .mapping _ loose entries =>
      loose = true ∧ SpellsMembers dialect members entries
  | _, _ => False

/-- Documents are what a notation makes of items. -/
def SpellsItems (dialect : Dialect) : List Shape → List (Document.Node Place) → Prop
  | [], [] => True
  | item :: items, node :: nodes => Spells dialect item node ∧ SpellsItems dialect items nodes
  | _, _ => False

/-- Entries are what a notation makes of members. -/
def SpellsMembers (dialect : Dialect) :
    List (Key × Shape) → List (Document.Node Place × Document.Node Place) → Prop
  | [], [] => True
  | (key, value) :: members, (name, node) :: entries =>
      Spells dialect (.text key.glyphs) name ∧ Spells dialect value node ∧
        SpellsMembers dialect members entries
  | _, _ => False

end

section Inversion

variable {dialect : Dialect} {node : Document.Node Place}

theorem exists_of_spells_word {w : Word} (h : dialect.Spells (.word w) node) :
    ∃ place, node = .scalar place (dialect.word w) := by
  cases node with
  | scalar place s => exact ⟨place, congrArg _ h⟩
  | _ => exact h.elim

theorem exists_of_spells_text {glyphs : List Glyph} (h : dialect.Spells (.text glyphs) node) :
    ∃ place, node = .scalar place (dialect.text (textOf glyphs)) := by
  cases node with
  | scalar place s => exact ⟨place, congrArg _ h⟩
  | _ => exact h.elim

theorem exists_of_spells_array {items : List Shape} (h : dialect.Spells (.array items) node) :
    ∃ place nodes, node = .sequence place true nodes ∧ dialect.SpellsItems items nodes := by
  cases node with
  | sequence place loose nodes => exact ⟨place, nodes, by rw [h.1], h.2⟩
  | _ => exact h.elim

theorem exists_of_spells_object {members : List (Key × Shape)}
    (h : dialect.Spells (.object members) node) :
    ∃ place entries, node = .mapping place true entries ∧
      dialect.SpellsMembers members entries := by
  cases node with
  | mapping place loose entries => exact ⟨place, entries, by rw [h.1], h.2⟩
  | _ => exact h.elim

theorem spellsItems_nil_iff {nodes : List (Document.Node Place)} :
    dialect.SpellsItems [] nodes ↔ nodes = [] := by
  cases nodes with
  | nil => simp [SpellsItems]
  | cons node rest => simp [SpellsItems]

theorem spellsMembers_nil_iff {entries : List (Document.Node Place × Document.Node Place)} :
    dialect.SpellsMembers [] entries ↔ entries = [] := by
  cases entries with
  | nil => simp [SpellsMembers]
  | cons entry rest => simp [SpellsMembers]

theorem exists_of_spellsItems_cons {item : Shape} {items : List Shape}
    {nodes : List (Document.Node Place)} (h : dialect.SpellsItems (item :: items) nodes) :
    ∃ node rest, nodes = node :: rest ∧ dialect.Spells item node ∧
      dialect.SpellsItems items rest := by
  cases nodes with
  | nil => exact h.elim
  | cons node rest => exact ⟨node, rest, rfl, h⟩

theorem exists_of_spellsMembers_cons {key : Key} {value : Shape} {members : List (Key × Shape)}
    {entries : List (Document.Node Place × Document.Node Place)}
    (h : dialect.SpellsMembers ((key, value) :: members) entries) :
    ∃ name node rest, entries = (name, node) :: rest ∧
      dialect.Spells (.text key.glyphs) name ∧ dialect.Spells value node ∧
        dialect.SpellsMembers members rest := by
  cases entries with
  | nil => exact h.elim
  | cons entry rest => exact ⟨entry.1, entry.2, rest, rfl, h⟩

theorem exists_of_mem_spellsItems {items : List Shape} {nodes : List (Document.Node Place)}
    (h : dialect.SpellsItems items nodes) {node : Document.Node Place} (hnode : node ∈ nodes) :
    ∃ item ∈ items, dialect.Spells item node := by
  induction items generalizing nodes with
  | nil =>
      obtain rfl := spellsItems_nil_iff.mp h
      exact absurd hnode List.not_mem_nil
  | cons item items ih =>
      obtain ⟨first, rest, rfl, hfirst, hrest⟩ := exists_of_spellsItems_cons h
      rcases List.mem_cons.mp hnode with rfl | hnode
      · exact ⟨item, List.mem_cons_self, hfirst⟩
      · obtain ⟨found, hfound, hspells⟩ := ih hrest hnode
        exact ⟨found, List.mem_cons_of_mem item hfound, hspells⟩

theorem exists_of_mem_spellsMembers {members : List (Key × Shape)}
    {entries : List (Document.Node Place × Document.Node Place)}
    (h : dialect.SpellsMembers members entries)
    {entry : Document.Node Place × Document.Node Place} (hentry : entry ∈ entries) :
    ∃ member ∈ members, dialect.Spells (.text member.1.glyphs) entry.1 ∧
      dialect.Spells member.2 entry.2 := by
  induction members generalizing entries with
  | nil =>
      obtain rfl := spellsMembers_nil_iff.mp h
      exact absurd hentry List.not_mem_nil
  | cons member members ih =>
      obtain ⟨name, node, rest, rfl, hname, hnode, hrest⟩ := exists_of_spellsMembers_cons h
      rcases List.mem_cons.mp hentry with rfl | hentry
      · exact ⟨member, List.mem_cons_self, hname, hnode⟩
      · obtain ⟨found, hfound, hspells⟩ := ih hrest hentry
        exact ⟨found, List.mem_cons_of_mem member hfound, hspells⟩

end Inversion

end Dialect

/-- A text is written as an object. -/
def WritesObject (members : List (Key × Shape)) (text : List Char) : Prop :=
  ∃ lead inside, text = lead ++ '\x7b' :: inside ∧ IsGap 0 lead ∧
    Written 1 (Shape.memberSigns true members ++ [.closeObject]) inside

/-! ## Writing shapes -/

/-- Signs with the same gap in front of each. -/
def spread (gap : List Char) (signs : List Sign) : List Char :=
  signs.flatMap fun sign => gap ++ sign.chars

section Spread

variable {gap : List Char}

/-- In front of a text a sign is written. -/
theorem Written.spread_cons (hgap : ∀ c ∈ gap, Json.Cursor.isBlank c = true) {depth : Nat}
    {sign : Sign} {signs : List Sign} {rest : List Char}
    (h : Written (sign.depthBehind depth) signs rest) :
    Written (depth + 1) (sign :: signs) (spread gap [sign] ++ rest) := by
  have hinside : IsGap (depth + 1) gap := fun c hc => ⟨hgap c hc, by simp⟩
  have hwritten := Written.cons hinside h
  simpa [spread] using hwritten

mutual

/-- Every shape can be written in front of a text. -/
theorem Written.spread_signs (shape : Shape) (hgap : ∀ c ∈ gap, Json.Cursor.isBlank c = true)
    {depth : Nat} {signs : List Sign} {rest : List Char} (h : Written (depth + 1) signs rest) :
    Written (depth + 1) (shape.signs ++ signs) (spread gap shape.signs ++ rest) := by
  match shape with
  | .word w => exact Written.spread_cons hgap h
  | .text glyphs => exact Written.spread_cons hgap h
  | .array items =>
      have hclosed : Written (depth + 2) (.closeArray :: signs) (spread gap [.closeArray] ++ rest) :=
        Written.spread_cons hgap h
      have hitems := Written.spread_itemSigns true items hgap hclosed
      have hopened : Written (depth + 1) (.openArray :: _) _ := Written.spread_cons hgap hitems
      simpa [spread, Shape.signs] using hopened
  | .object members =>
      have hclosed :
          Written (depth + 2) (.closeObject :: signs) (spread gap [.closeObject] ++ rest) :=
        Written.spread_cons hgap h
      have hmembers := Written.spread_memberSigns true members hgap hclosed
      have hopened : Written (depth + 1) (.openObject :: _) _ := Written.spread_cons hgap hmembers
      simpa [spread, Shape.signs] using hopened

theorem Written.spread_before (first : Bool) (hgap : ∀ c ∈ gap, Json.Cursor.isBlank c = true)
    {depth : Nat} {signs : List Sign} {rest : List Char} (h : Written (depth + 1) signs rest) :
    Written (depth + 1) (Shape.before first ++ signs) (spread gap (Shape.before first) ++ rest) := by
  match first with
  | true => exact h
  | false => exact Written.spread_cons hgap h

theorem Written.spread_itemSigns (first : Bool) (items : List Shape)
    (hgap : ∀ c ∈ gap, Json.Cursor.isBlank c = true) {depth : Nat} {signs : List Sign}
    {rest : List Char} (h : Written (depth + 1) signs rest) :
    Written (depth + 1) (Shape.itemSigns first items ++ signs)
      (spread gap (Shape.itemSigns first items) ++ rest) := by
  match items with
  | [] => exact h
  | item :: items =>
      have hitem := Written.spread_signs item hgap (Written.spread_itemSigns false items hgap h)
      have hbehind := Written.spread_before first hgap hitem
      simpa [spread, Shape.itemSigns] using hbehind

theorem Written.spread_memberSigns (first : Bool) (members : List (Key × Shape))
    (hgap : ∀ c ∈ gap, Json.Cursor.isBlank c = true) {depth : Nat} {signs : List Sign}
    {rest : List Char} (h : Written (depth + 1) signs rest) :
    Written (depth + 1) (Shape.memberSigns first members ++ signs)
      (spread gap (Shape.memberSigns first members) ++ rest) := by
  match members with
  | [] => exact h
  | (key, value) :: members =>
      have hvalue :=
        Written.spread_signs value hgap (Written.spread_memberSigns false members hgap h)
      have hkey : Written (depth + 1) (.key key :: _) _ := Written.spread_cons hgap hvalue
      have hbehind := Written.spread_before first hgap hkey
      simpa [spread, Shape.memberSigns] using hbehind

end

/-- Every object can be written, whatever blanks its signs are set apart with. -/
theorem writesObject_spread (members : List (Key × Shape))
    (hgap : ∀ c ∈ gap, Json.Cursor.isBlank c = true) :
    WritesObject members
      ('\x7b' :: spread gap (Shape.memberSigns true members ++ [.closeObject])) := by
  have hnothing : IsGap 0 [] := fun c hc => absurd hc List.not_mem_nil
  have hclosed : Written 1 [.closeObject] (spread gap [.closeObject] ++ []) :=
    Written.spread_cons hgap (.nil hnothing)
  have hmembers := Written.spread_memberSigns true members hgap hclosed
  refine ⟨[], _, rfl, hnothing, ?_⟩
  simpa [spread] using hmembers

end Spread

end ResourceTemplate.Notation

import ResourceTemplate.Json.Decode
import ResourceTemplate.Json.Printer
import ResourceTemplate.Proofs.Notation.Fraction
import ResourceTemplate.Proofs.Notation.Json
import ResourceTemplate.Proofs.Notation.Refinement
import ResourceTemplate.Proofs.Notation.Tree
import ResourceTemplate.Proofs.Outcome
import ResourceTemplate.Proofs.Template.Refinement
import ResourceTemplate.Template.Load

/-!
# Templates written in JSON

A template is parsed as YAML.  When its text is JSON, and is written in the notation that both
share, the same template is parsed as would be read from the JSON, whatever blanks stand between its
parts and whichever escapes it uses.

The notation leaves out what YAML does not have.  Among that are characters beyond the first plane
that are written as a pair of escapes, which every JSON writer for ASCII produces: such a text is
refused.
-/

namespace ResourceTemplate

open Document Notation

/-! ## Parameters -/

namespace Notation

/-- No parameter is written as a list. -/
def ParametersNamed (members : List (Key × Shape)) : Prop :=
  ∀ member ∈ members, textOf member.1.glyphs = "parameters" →
    ∀ items, member.2 = .array items → ∀ item ∈ items, ∀ parts, item ≠ .array parts

namespace Dialect

variable {Place : Type} {dialect : Dialect}

/-- In JSON only an array has items. -/
theorem exists_of_items_json {shape : Shape} {node : Node Place} (h : json.Spells shape node)
    {wanted : String} {nodes : List (Node Place)} (hitems : node.items wanted = .ok nodes) :
    ∃ items, shape = .array items ∧ json.SpellsItems items nodes := by
  have hhollow : ∀ value, (Json.scalarOf value).hollow = false := by
    intro value
    cases value with
    | number n => cases n <;> rfl
    | _ => rfl
  cases shape with
  | word w =>
      obtain ⟨place, rfl⟩ := exists_of_spells_word h
      simp [Node.items, json, hhollow] at hitems
  | text glyphs =>
      obtain ⟨place, rfl⟩ := exists_of_spells_text h
      simp [Node.items, json, hhollow] at hitems
  | array items =>
      obtain ⟨place, found, rfl, hspells⟩ := exists_of_spells_array h
      obtain rfl := Except.ok.inj hitems
      exact ⟨items, rfl, hspells⟩
  | object members =>
      obtain ⟨place, entries, rfl, hspells⟩ := exists_of_spells_object h
      simp [Node.items] at hitems

theorem isSequence_of_spells {shape : Shape} {node : Node Place} (h : dialect.Spells shape node)
    (hshape : ∀ items, shape ≠ .array items) : node.isSequence = false := by
  cases shape with
  | word w =>
      obtain ⟨place, rfl⟩ := exists_of_spells_word h
      rfl
  | text glyphs =>
      obtain ⟨place, rfl⟩ := exists_of_spells_text h
      rfl
  | array items => exact absurd rfl (hshape items)
  | object members =>
      obtain ⟨place, entries, rfl, -⟩ := exists_of_spells_object h
      rfl

end Dialect

end Notation

/-- What is decoded is read from the whole text. -/
theorem Json.readDocument_of_decode {α : Type} {text : String} {found : α}
    {read : Node Json.Span → Except (Violation Json.Span) α} (h : Json.decode read text = .ok found) :
    ∃ node, Json.readDocument text.toList = (node, none) ∧ read node = .ok found := by
  unfold Json.decode at h
  cases hdocument : Json.readDocument text.toList with
  | mk node failure? =>
      simp only [hdocument] at h
      cases hread : read node with
      | error v =>
          simp only [hread] at h
          split at h <;> simp at h
      | ok value =>
          cases failure? with
          | some failure => simp [hread] at h
          | none =>
              simp only [hread, Except.ok.injEq] at h
              exact ⟨node, rfl, h ▸ hread⟩

namespace Template

/-- Where no parameter is written as a list, JSON makes no record of a list. -/
theorem recordsNamed_of_parametersNamed {Place : Type} {members : List (Key × Shape)}
    {node : Node Place} (hspells : Dialect.json.Spells (.object members) node)
    (hnamed : ParametersNamed members) : RecordsNamed node := by
  refine ⟨Dialect.isSequence_of_spells hspells (by simp), ?_⟩
  intro entries hentries entry hentry hname parameters hparameters p hp
  obtain ⟨place, found, rfl, hmembers⟩ := Dialect.exists_of_spells_object hspells
  obtain rfl := Except.ok.inj hentries
  obtain ⟨member, hmember, hkey, hvalue⟩ := Dialect.exists_of_mem_spellsMembers hmembers hentry
  obtain ⟨items, hitems, hfound⟩ := Dialect.exists_of_items_json hvalue hparameters
  obtain ⟨item, hitem, hspelled⟩ := Dialect.exists_of_mem_spellsItems hfound hp
  have htext : textOf member.1.glyphs = "parameters" := by
    obtain ⟨start, hkey⟩ := Dialect.exists_of_spells_text hkey
    rw [hkey] at hname
    exact Except.ok.inj hname
  exact Dialect.isSequence_of_spells hspelled (hnamed member hmember htext items hitems item hitem)

/-! ## Parsing -/

/-- A template in JSON is parsed to what it is in JSON. -/
theorem parse_of_json_decode {members : List (Key × Shape)} {text : String} {t : Template}
    (hwritten : WritesObject members text.toList) (hnamed : ParametersNamed members)
    (hread : Json.decode (read true) text = .ok t) : parse text = .ok t := by
  obtain ⟨node, hdocument, htemplate⟩ := Json.readDocument_of_decode hread
  obtain ⟨hspells, hheight⟩ := readDocument_written hwritten hdocument
  obtain ⟨tree, htree, hspelled⟩ := Yaml.exists_readTree hwritten (Nat.le_of_lt hheight)
  have hrefines : node.Refines tree.node :=
    Dialect.spells_refines (.object members) hspells hspelled
  have hnode : read false node = .ok t := by
    rw [← read_of_recordsNamed (recordsNamed_of_parametersNamed hspells hnamed)]
    exact htemplate
  have hfound : read false tree.node = .ok t := read_of_refines hrefines hnode
  simp only [parse, Yaml.decode, htree, hfound]

/-! ### A template with parts of every kind -/

/-- A text as it is. -/
def plainGlyphs (chars : List Char) (h : chars.all isPlain = true) : List Glyph :=
  chars.pmap Glyph.plain (List.all_eq_true.mp h)

/-- A key with a blank in front of its colon. -/
def plainKey (chars : List Char) (h : chars.all isPlain = true)
    (hshort : (quoted (plainGlyphs chars h) ++ [' ']).length ≤ Yaml.Scanner.keyLimit) : Key :=
  ⟨plainGlyphs chars h, [' '], by simp [Yaml.isBlank], hshort⟩

theorem seven : Decimal ['7'] 7 := ⟨by decide, by decide, by decide⟩

theorem twelve : Decimal ['1', '2'] 12 := ⟨by decide, by decide, by decide⟩

theorem quarter : Fraction ['0'] ['2', '5'] 25 :=
  ⟨by decide, by decide, by decide, fun _ => rfl, by decide, by decide⟩

/-- A quarter as a double. -/
def quarterDouble : Binary64 := ⟨false, 0x10000000000000, -54⟩

theorem quarter_numeral : Numeral ['0', '.', '2', '5'] (.double quarterDouble) := by
  have hquarter : Binary64.ofDecimal false 25 (-2) = some quarterDouble := by decide +kernel
  obtain ⟨d, hd, hnumeral⟩ := quarter.exists_numeral false
  obtain rfl : d = quarterDouble := Option.some.inj (hd.symm.trans hquarter)
  exact hnumeral

/-- A message with escapes, an object with numbers and nothing, and a parameter. -/
def mixedMembers : List (Key × Shape) :=
  [(plainKey ['m', 'e', 's', 's', 'a', 'g', 'e'] (by decide) (by decide),
      .text [.plain 'a' (by decide), .letter 'n' '\n' rfl, .letter '/' '/' rfl,
        .digits '0' '0' 'e' '9' 0xE9 (by decide) (by decide) (by decide)]),
    (plainKey ['o', 'b', 'j', 'e', 'c', 't', 's'] (by decide) (by decide),
      .array [.object [
        (plainKey ['k', 'i', 'n', 'd'] (by decide) (by decide),
          .text (plainGlyphs ['W', 'i', 'd', 'g', 'e', 't'] (by decide))),
        (plainKey ['d', 'a', 't', 'a'] (by decide) (by decide),
          .array [.word .null, .word (.flag true),
            .word (.numeral ['7'] (.natural 7) seven.numeral),
            .word (.numeral ['-', '1', '2'] (.negative 11)
              (twelve.numeral_neg (by decide) (by decide))),
            .word (.numeral ['0', '.', '2', '5'] (.double quarterDouble) quarter_numeral)])]]),
    (plainKey ['p', 'a', 'r', 'a', 'm', 'e', 't', 'e', 'r', 's'] (by decide) (by decide),
      .array [.object [(plainKey ['n', 'a', 'm', 'e'] (by decide) (by decide),
        .text (plainGlyphs ['N'] (by decide)))]])]

/-- Their text. -/
def mixedText : String :=
  "\x7b \"message\" : \"a\\n\\/\\u00e9\" , \"objects\" : [ \x7b \"kind\" : \"Widget\" , \"data\" : " ++
    "[ null , true , 7 , -12 , 0.25 ] \x7d ] , \"parameters\" : [ \x7b \"name\" : \"N\" \x7d ] \x7d"

theorem mixedText_eq : mixedText.toList =
    '\x7b' :: spread [' '] (Shape.memberSigns true mixedMembers ++ [.closeObject]) := by
  decide +kernel

theorem parse_of_json_decode_mixedText :
    WritesObject mixedMembers mixedText.toList ∧ ParametersNamed mixedMembers ∧
      ∃ t, Json.decode (read true) mixedText = .ok t ∧ parse mixedText = .ok t ∧
        t.message? = some "a\n/é" ∧ t.parameters = [Parameter.named "N"] ∧
        t.objects.map Json.compact =
          ["\x7b\"data\":[null,true,7,-12,0.25],\"kind\":\"Widget\"\x7d"] := by
  have hwritten : WritesObject mixedMembers mixedText.toList := by
    rw [mixedText_eq]
    exact writesObject_spread mixedMembers (by simp [Json.Cursor.isBlank])
  have hnamed : ParametersNamed mixedMembers := by
    intro member hmember _ items hitems item hitem parts
    simp only [mixedMembers, List.mem_cons, List.not_mem_nil, or_false] at hmember
    rcases hmember with rfl | rfl | rfl
    · simp at hitems
    · obtain rfl := Shape.array.inj hitems
      obtain rfl := List.mem_singleton.mp hitem
      simp
    · obtain rfl := Shape.array.inj hitems
      obtain rfl := List.mem_singleton.mp hitem
      simp
  have hfound : ((Json.decode (read true) mixedText).toOption.map fun t =>
      (t.message?, t.parameters, t.objects.map Json.compact)) =
        some (some "a\n/é", [Parameter.named "N"],
          ["\x7b\"data\":[null,true,7,-12,0.25],\"kind\":\"Widget\"\x7d"]) := by
    unfold Json.decode
    rw [mixedText_eq]
    decide +kernel
  cases hread : Json.decode (read true) mixedText with
  | error e => simp [hread, Except.toOption] at hfound
  | ok t =>
      simp only [hread, Except.toOption, Option.map_some, Option.some.injEq,
        Prod.mk.injEq] at hfound
      obtain ⟨hmessage, hparameters, hobjects⟩ := hfound
      exact ⟨hwritten, hnamed, t, rfl, parse_of_json_decode hwritten hnamed hread, hmessage,
        hparameters, hobjects⟩

/-! ### Pairs of escapes -/

/-- A message of one character beyond the first plane, as a writer for ASCII writes it. -/
def pairedText : String := "\x7b\"message\": \"\\ud83d\\ude00\", \"objects\": []\x7d"

/-- The text is a template in JSON, and it is not parsed. -/
theorem paired_escapes_are_refused :
    Json.decode (read true) pairedText = .ok { empty with message? := some "😀" } ∧
      parse pairedText = .error (.fault (.within .escapes ⟨12, 0, 12⟩ .badCodePoint ⟨15, 0, 15⟩)) :=
  ⟨by decide +kernel, by decide +kernel⟩

end Template

end ResourceTemplate

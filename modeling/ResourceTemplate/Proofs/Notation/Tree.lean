import ResourceTemplate.Proofs.Notation.Tokens
import ResourceTemplate.Yaml.Document

/-!
# From tokens to documents

The tokens of a shape are read as markup of that shape, without names or tags, whatever stands
behind them.  Such markup has no aliases, so within the limit of nesting its tree is the same
document.
-/

namespace ResourceTemplate.Yaml

/-! ## Readings of tokens -/

namespace TokenReading

variable {α β : Type}

/-- A reading takes lexemes from the front and leaves the rest and everything else as it is. -/
def Yields (reading : TokenReading α) (lexemes left : List Lexeme) (found : α) : Prop :=
  ∀ reader : TokenReader,
    reading.run { reader with rest := lexemes } = .ok (found, { reader with rest := left })

theorem yields_pure (found : α) (lexemes : List Lexeme) :
    Yields (pure found) lexemes lexemes found := fun _ => rfl

theorem Yields.bind {reading : TokenReading α} {next : α → TokenReading β}
    {lexemes middle left : List Lexeme} {found : α} {result : β}
    (h : Yields reading lexemes middle found) (hnext : Yields (next found) middle left result) :
    Yields (reading >>= next) lexemes left result := by
  intro reader
  rw [StateT.run_bind, h reader]
  exact hnext reader

theorem yields_peek (next : Lexeme) (rest : List Lexeme) :
    Yields peek (next :: rest) (next :: rest) next := fun _ => rfl

theorem yields_skip (next : Lexeme) (rest : List Lexeme) :
    Yields skip (next :: rest) rest () := fun _ => rfl

end TokenReading

open TokenReading Notation

namespace Properties

/-- No name and no tag stands in front of a node. -/
def bare (place : Mark) : Properties := ⟨place, none, none⟩

theorem yields_read {next : Lexeme} (hname : ∀ name, next.token ≠ .anchor name)
    (htag : ∀ handle ending, next.token ≠ .tag handle ending) (rest : List Lexeme) :
    Yields read (next :: rest) (next :: rest) (bare next.start) := by
  refine (yields_peek next rest).bind ?_
  split
  next name heq => exact absurd heq (hname name)
  next handle ending heq => exact absurd heq (htag handle ending)
  next => exact yields_pure _ _

theorem yields_resolveTag (place : Mark) (lexemes : List Lexeme) :
    Yields (bare place).resolveTag lexemes lexemes none := fun _ => rfl

end Properties

/-! ## Markup of shapes -/

namespace Markup

mutual

/-- Markup is that of a shape: it is nested alike and has neither names nor tags. -/
def Marks : Shape → Markup → Prop
  | .word w, scalar _ number? tag? style text =>
      number? = none ∧ tag? = none ∧ style = .plain ∧ text = String.ofList w.chars
  | .text glyphs, scalar _ number? tag? style text =>
      number? = none ∧ tag? = none ∧ style = .doubleQuoted ∧ text = textOf glyphs
  | .array items, sequence _ number? tag? nodes =>
      number? = none ∧ tag? = none ∧ MarksItems items nodes
  | .object members, mapping _ number? tag? entries =>
      number? = none ∧ tag? = none ∧ MarksMembers members entries
  | _, _ => False

/-- Nodes are the markup of items one by one. -/
def MarksItems : List Shape → List Markup → Prop
  | [], [] => True
  | item :: items, node :: nodes => Marks item node ∧ MarksItems items nodes
  | _, _ => False

/-- Entries are the markup of members one by one. -/
def MarksMembers : List (Key × Shape) → List (Markup × Markup) → Prop
  | [], [] => True
  | (key, value) :: members, (name, node) :: entries =>
      Marks (.text key.glyphs) name ∧ Marks value node ∧ MarksMembers members entries
  | _, _ => False

end

/-! ## Reading one node -/

/-- Read a node that nothing stands in front of. -/
def readBare (fuel : Nat) (next : Lexeme) : TokenReading Markup :=
  match next.token with
  | .scalar style text => do
      skip
      return .scalar next.start none none style text
  | .flowSequenceStart => do
      skip
      return .sequence next.start none none (← readFlowItems fuel next.start [])
  | .flowMappingStart => do
      skip
      return .mapping next.start none none (← readFlowEntries fuel next.start [])
  | _ => do throw (← get).fault

/-- Whether a token is a scalar or opens a flow collection. -/
def beginsNode : Token → Bool
  | .scalar _ _ => true
  | .flowSequenceStart => true
  | .flowMappingStart => true
  | _ => false

variable {fuel : Nat} {start : Mark} {first next : Lexeme} {rest left : List Lexeme}

theorem yields_readNode (hbegins : beginsNode next.token = true) (inBlock asValue : Bool)
    {node : Markup} (hnode : Yields (readBare fuel next) (next :: rest) left node) :
    Yields (readNode (fuel + 1) inBlock asValue) (next :: rest) left node := by
  have hname : ∀ name, next.token ≠ .anchor name := by
    intro name heq
    simp [heq, beginsNode] at hbegins
  have htag : ∀ handle ending, next.token ≠ .tag handle ending := by
    intro handle ending heq
    simp [heq, beginsNode] at hbegins
  rw [readNode]
  refine (yields_peek next rest).bind ?_
  -- Neither an alias nor a name or a tag comes first, so the properties are empty.
  split
  next name heq => simp [heq, beginsNode] at hbegins
  refine (Properties.yields_read hname htag rest).bind ?_
  refine (Properties.yields_resolveTag next.start (next :: rest)).bind ?_
  refine (yields_peek next rest).bind ?_
  unfold readBare at hnode
  cases htoken : next.token with
  | scalar style text =>
    simp only [htoken] at hnode ⊢
    exact hnode
  | flowSequenceStart =>
    simp only [htoken] at hnode ⊢
    exact hnode
  | flowMappingStart =>
    simp only [htoken] at hnode ⊢
    exact hnode
  | _ => simp [htoken, beginsNode] at hbegins

/-! ## Reading items and entries -/

/-- Read the items of a flow sequence behind the comma that separates them from those before. -/
def readFlowItem (fuel : Nat) (start : Mark) (before : List Markup) :
    TokenReading (List Markup) := do
  let next ← peek
  match next.token with
  | .flowSequenceEnd =>
      skip
      return before.reverse
  | .key =>
      skip
      let pair ← readFlowPair fuel
      readFlowItems fuel start (.mapping next.start none none [pair] :: before)
  | _ =>
      let node ← readNode fuel false false
      readFlowItems fuel start (node :: before)

theorem readFlowItems_succ (before : List Markup) :
    readFlowItems (fuel + 1) start before = (do
      let first ← peek
      if first.token = .comma && !before.isEmpty then do
        skip
        readFlowItem fuel start before
      else if first.token ≠ .flowSequenceEnd && !before.isEmpty then do
        throw (.within .flowSequence start .missingCommaOrBracket first.start)
        readFlowItem fuel start before
      else readFlowItem fuel start before) := by
  rw [readFlowItems]
  rfl

/-- Read the entries of a flow mapping behind the comma that separates them from those before. -/
def readFlowEntry (fuel : Nat) (start : Mark) (before : List (Markup × Markup)) :
    TokenReading (List (Markup × Markup)) := do
  let next ← peek
  match next.token with
  | .flowMappingEnd =>
      skip
      return before.reverse
  | .key =>
      skip
      let inside ← peek
      let key ← if inside.token = .value || isMappingBoundary inside.token then
          pure (Markup.empty inside.start)
        else readNode fuel false false
      let value ← readFlowValue fuel
      readFlowEntries fuel start ((key, value) :: before)
  | _ =>
      let key ← readNode fuel false false
      let behind ← peek
      readFlowEntries fuel start ((key, Markup.empty behind.start) :: before)

theorem readFlowEntries_succ (before : List (Markup × Markup)) :
    readFlowEntries (fuel + 1) start before = (do
      let first ← peek
      if first.token = .comma && !before.isEmpty then do
        skip
        readFlowEntry fuel start before
      else if first.token ≠ .flowMappingEnd && !before.isEmpty then do
        throw (.within .flowMapping start .missingCommaOrBrace first.start)
        readFlowEntry fuel start before
      else readFlowEntry fuel start before) := by
  rw [readFlowEntries]
  rfl

section Items

variable {before nodes : List Markup}

theorem yields_readFlowItems_comma (hcomma : first.token = .comma) (hbefore : before.isEmpty = false)
    (h : Yields (readFlowItem fuel start before) rest left nodes) :
    Yields (readFlowItems (fuel + 1) start before) (first :: rest) left nodes := by
  rw [readFlowItems_succ]
  refine (yields_peek first rest).bind ?_
  simp only [hcomma, hbefore, Bool.not_false, Bool.and_true, decide_true, if_true]
  exact (yields_skip first rest).bind h

theorem yields_readFlowItems_first
    (hfirst : before.isEmpty = true ∨ first.token = .flowSequenceEnd)
    (h : Yields (readFlowItem fuel start before) (first :: rest) left nodes) :
    Yields (readFlowItems (fuel + 1) start before) (first :: rest) left nodes := by
  rw [readFlowItems_succ]
  refine (yields_peek first rest).bind ?_
  rcases hfirst with hbefore | hend
  · simpa [hbefore] using h
  · simpa [hend] using h

theorem yields_readFlowItem_end (h : next.token = .flowSequenceEnd) :
    Yields (readFlowItem fuel start before) (next :: rest) rest before.reverse := by
  refine (yields_peek next rest).bind ?_
  simp only [h]
  exact (yields_skip next rest).bind (yields_pure _ _)

theorem yields_readFlowItem_node (hbegins : beginsNode next.token = true) {node : Markup}
    {middle : List Lexeme} (hnode : Yields (readNode fuel false false) (next :: rest) middle node)
    (h : Yields (readFlowItems fuel start (node :: before)) middle left nodes) :
    Yields (readFlowItem fuel start before) (next :: rest) left nodes := by
  refine (yields_peek next rest).bind ?_
  split
  next heq => simp [heq, beginsNode] at hbegins
  next heq => simp [heq, beginsNode] at hbegins
  next => exact hnode.bind h

end Items

section Entries

variable {before entries : List (Markup × Markup)}

theorem yields_readFlowEntries_comma (hcomma : first.token = .comma)
    (hbefore : before.isEmpty = false)
    (h : Yields (readFlowEntry fuel start before) rest left entries) :
    Yields (readFlowEntries (fuel + 1) start before) (first :: rest) left entries := by
  rw [readFlowEntries_succ]
  refine (yields_peek first rest).bind ?_
  simp only [hcomma, hbefore, Bool.not_false, Bool.and_true, decide_true, if_true]
  exact (yields_skip first rest).bind h

theorem yields_readFlowEntries_first
    (hfirst : before.isEmpty = true ∨ first.token = .flowMappingEnd)
    (h : Yields (readFlowEntry fuel start before) (first :: rest) left entries) :
    Yields (readFlowEntries (fuel + 1) start before) (first :: rest) left entries := by
  rw [readFlowEntries_succ]
  refine (yields_peek first rest).bind ?_
  rcases hfirst with hbefore | hend
  · simpa [hbefore] using h
  · simpa [hend] using h

theorem yields_readFlowEntry_end (h : next.token = .flowMappingEnd) :
    Yields (readFlowEntry fuel start before) (next :: rest) rest before.reverse := by
  refine (yields_peek next rest).bind ?_
  simp only [h]
  exact (yields_skip next rest).bind (yields_pure _ _)

theorem yields_readFlowValue {colon : Lexeme} (hcolon : colon.token = .value)
    (hbegins : beginsNode next.token = true) {node : Markup}
    (hnode : Yields (readNode fuel false false) (next :: rest) left node) :
    Yields (readFlowValue (fuel + 1)) (colon :: next :: rest) left node := by
  rw [readFlowValue]
  refine (yields_peek colon (next :: rest)).bind ?_
  simp only [hcolon, if_true]
  refine (yields_skip colon (next :: rest)).bind ((yields_peek next rest).bind ?_)
  have hinside : isMappingBoundary next.token = false := by
    cases htoken : next.token <;> simp_all [isMappingBoundary, beginsNode]
  simpa only [hinside, Bool.false_eq_true, if_false] using hnode

theorem yields_readFlowEntry_key {key name colon : Lexeme} {text : String}
    (hkey : key.token = .key) (hname : name.token = .scalar .doubleQuoted text)
    (hcolon : colon.token = .value) (hbegins : beginsNode next.token = true) {node : Markup}
    {middle : List Lexeme} (hnode : Yields (readNode fuel false false) (next :: rest) middle node)
    (h : Yields (readFlowEntries (fuel + 1) start
      ((.scalar name.start none none .doubleQuoted text, node) :: before)) middle left entries) :
    Yields (readFlowEntry (fuel + 1) start before) (key :: name :: colon :: next :: rest) left
      entries := by
  refine (yields_peek key _).bind ?_
  simp only [hkey]
  refine (yields_skip key _).bind ((yields_peek name _).bind ?_)
  have hscalar : Yields (readNode (fuel + 1) false false) (name :: colon :: next :: rest)
      (colon :: next :: rest) (.scalar name.start none none .doubleQuoted text) := by
    refine yields_readNode (by simp [hname, beginsNode]) false false ?_
    simp only [readBare, hname]
    exact (yields_skip name _).bind (yields_pure _ _)
  simp only [hname, isMappingBoundary, Bool.or_false, decide_eq_true_eq, reduceCtorEq, if_false]
  exact hscalar.bind ((yields_readFlowValue hcolon hbegins hnode).bind h)

end Entries

/-! ## Reading shapes -/

theorem tokens_array (items : List Shape) (more : List Token) :
    (Shape.array items).signs.flatMap Sign.tokens ++ more = .flowSequenceStart ::
      ((Shape.itemSigns true items).flatMap Sign.tokens ++ .flowSequenceEnd :: more) := by
  simp [Shape.signs, Sign.tokens]

theorem tokens_object (members : List (Key × Shape)) (more : List Token) :
    (Shape.object members).signs.flatMap Sign.tokens ++ more = .flowMappingStart ::
      ((Shape.memberSigns true members).flatMap Sign.tokens ++ .flowMappingEnd :: more) := by
  simp [Shape.signs, Sign.tokens]

theorem exists_tokens_eq_cons (shape : Shape) :
    ∃ token more, shape.signs.flatMap Sign.tokens = token :: more ∧ beginsNode token = true := by
  cases shape with
  | word w => exact ⟨_, _, rfl, rfl⟩
  | text glyphs => exact ⟨_, _, rfl, rfl⟩
  | array items => exact ⟨_, _, rfl, rfl⟩
  | object members => exact ⟨_, _, rfl, rfl⟩

/-- Lexemes with the tokens of a shape begin with one that begins a node. -/
theorem exists_eq_cons_of_shape {shape : Shape} {more : List Token} {lexemes : List Lexeme}
    (h : lexemes.map Lexeme.token = shape.signs.flatMap Sign.tokens ++ more) :
    ∃ next rest, lexemes = next :: rest ∧ beginsNode next.token = true := by
  obtain ⟨token, tokens, htokens, hbegins⟩ := exists_tokens_eq_cons shape
  rw [htokens, List.cons_append] at h
  obtain ⟨next, rest, rfl, rfl, -⟩ := List.map_eq_cons_iff.mp h
  exact ⟨next, rest, rfl, hbegins⟩

theorem length_lt_of_shape {shape : Shape} {more : List Token} {lexemes left : List Lexeme}
    (h : lexemes.map Lexeme.token = shape.signs.flatMap Sign.tokens ++ more)
    (hleft : left.map Lexeme.token = more) : left.length < lexemes.length := by
  obtain ⟨token, tokens, htokens, -⟩ := exists_tokens_eq_cons shape
  have hlength := congrArg List.length h
  rw [htokens, ← hleft] at hlength
  simp only [List.length_map, List.length_append, List.length_cons] at hlength
  omega

mutual

/-- From the tokens of a shape, markup of that shape is read. -/
theorem exists_yields_readNode (shape : Shape) {fuel : Nat} (inBlock asValue : Bool)
    {lexemes : List Lexeme} {more : List Token}
    (hlexemes : lexemes.map Lexeme.token = shape.signs.flatMap Sign.tokens ++ more)
    (hfuel : 2 * lexemes.length < fuel) :
    ∃ node left, Yields (readNode fuel inBlock asValue) lexemes left node ∧
      left.map Lexeme.token = more ∧ Marks shape node := by
  obtain ⟨fuel, rfl⟩ : ∃ less, fuel = less + 1 := ⟨fuel - 1, by omega⟩
  obtain ⟨next, rest, rfl, hbegins⟩ := exists_eq_cons_of_shape hlexemes
  simp only [List.length_cons] at hfuel
  match shape with
  | .word w =>
      obtain ⟨htoken, hrest⟩ := List.cons.inj hlexemes
      have hbare : Yields (readBare fuel next) (next :: rest) rest
          (.scalar next.start none none .plain (String.ofList w.chars)) := by
        simp only [readBare, htoken]
        exact (yields_skip next rest).bind (yields_pure _ _)
      exact ⟨_, rest, yields_readNode hbegins inBlock asValue hbare, hrest, rfl, rfl, rfl, rfl⟩
  | .text glyphs =>
      obtain ⟨htoken, hrest⟩ := List.cons.inj hlexemes
      have hbare : Yields (readBare fuel next) (next :: rest) rest
          (.scalar next.start none none .doubleQuoted (textOf glyphs)) := by
        simp only [readBare, htoken]
        exact (yields_skip next rest).bind (yields_pure _ _)
      exact ⟨_, rest, yields_readNode hbegins inBlock asValue hbare, hrest, rfl, rfl, rfl, rfl⟩
  | .array items =>
      rw [tokens_array] at hlexemes
      obtain ⟨htoken, hitems⟩ := List.cons.inj hlexemes
      obtain ⟨nodes, left, hread, hleft, hmarks⟩ :=
        exists_yields_readFlowItems items next.start [] hitems (by omega : 2 * rest.length + 1 < fuel)
      have hbare : Yields (readBare fuel next) (next :: rest) left
          (.sequence next.start none none nodes) := by
        simp only [readBare, htoken]
        exact (yields_skip next rest).bind (hread.bind (yields_pure _ _))
      exact ⟨_, left, yields_readNode hbegins inBlock asValue hbare, hleft, rfl, rfl, hmarks⟩
  | .object members =>
      rw [tokens_object] at hlexemes
      obtain ⟨htoken, hmembers⟩ := List.cons.inj hlexemes
      obtain ⟨entries, left, hread, hleft, hmarks⟩ :=
        exists_yields_readFlowEntries members next.start [] hmembers
          (by omega : 2 * rest.length + 1 < fuel)
      have hbare : Yields (readBare fuel next) (next :: rest) left
          (.mapping next.start none none entries) := by
        simp only [readBare, htoken]
        exact (yields_skip next rest).bind (hread.bind (yields_pure _ _))
      exact ⟨_, left, yields_readNode hbegins inBlock asValue hbare, hleft, rfl, rfl, hmarks⟩

theorem exists_yields_readFlowItems (items : List Shape) {fuel : Nat} (start : Mark)
    (before : List Markup) {lexemes : List Lexeme} {more : List Token}
    (hlexemes : lexemes.map Lexeme.token =
      (Shape.itemSigns before.isEmpty items).flatMap Sign.tokens ++ .flowSequenceEnd :: more)
    (hfuel : 2 * lexemes.length + 1 < fuel) :
    ∃ nodes left, Yields (readFlowItems fuel start before) lexemes left (before.reverse ++ nodes) ∧
      left.map Lexeme.token = more ∧ MarksItems items nodes := by
  obtain ⟨fuel, rfl⟩ : ∃ less, fuel = less + 1 := ⟨fuel - 1, by omega⟩
  match items with
  | [] =>
      obtain ⟨next, rest, rfl, htoken, hrest⟩ := List.map_eq_cons_iff.mp hlexemes
      refine ⟨[], rest, ?_, hrest, trivial⟩
      rw [List.append_nil]
      exact yields_readFlowItems_first (.inr htoken) (yields_readFlowItem_end htoken)
  | item :: items =>
      -- With or without a comma in front, the item is read and then those behind it.  Each round
      -- takes a unit of fuel and at least one lexeme.
      have hitem : ∀ {place : List Lexeme}, 2 * place.length < fuel →
          place.map Lexeme.token = item.signs.flatMap Sign.tokens ++
            ((Shape.itemSigns false items).flatMap Sign.tokens ++ .flowSequenceEnd :: more) →
          ∃ nodes left,
            Yields (readFlowItem fuel start before) place left (before.reverse ++ nodes) ∧
              left.map Lexeme.token = more ∧ MarksItems (item :: items) nodes := by
        intro place hplace htokens
        obtain ⟨node, middle, hnode, hmiddle, hmarks⟩ :=
          exists_yields_readNode item false false htokens hplace
        have hshorter := length_lt_of_shape htokens hmiddle
        obtain ⟨nodes, left, hread, hleft, hrest⟩ :=
          exists_yields_readFlowItems items start (node :: before) hmiddle
            (by omega : 2 * middle.length + 1 < fuel)
        obtain ⟨next, rest, rfl, hbegins⟩ := exists_eq_cons_of_shape htokens
        refine ⟨node :: nodes, left, yields_readFlowItem_node hbegins hnode ?_, hleft, hmarks, hrest⟩
        simpa using hread
      rw [Shape.itemSigns, List.flatMap_append, List.flatMap_append, List.append_assoc,
        List.append_assoc] at hlexemes
      cases hbefore : before.isEmpty with
      | true =>
          rw [hbefore] at hlexemes
          obtain ⟨nodes, left, hread, hfound⟩ := hitem (by omega) hlexemes
          obtain ⟨next, rest, rfl, -⟩ := exists_eq_cons_of_shape hlexemes
          exact ⟨nodes, left, yields_readFlowItems_first (.inl hbefore) hread, hfound⟩
      | false =>
          rw [hbefore] at hlexemes
          obtain ⟨comma, rest, rfl, hcomma, hrest⟩ := List.map_eq_cons_iff.mp hlexemes
          simp only [List.length_cons] at hfuel
          obtain ⟨nodes, left, hread, hfound⟩ := hitem (by omega) hrest
          exact ⟨nodes, left, yields_readFlowItems_comma hcomma hbefore hread, hfound⟩

theorem exists_yields_readFlowEntries (members : List (Key × Shape)) {fuel : Nat} (start : Mark)
    (before : List (Markup × Markup)) {lexemes : List Lexeme} {more : List Token}
    (hlexemes : lexemes.map Lexeme.token =
      (Shape.memberSigns before.isEmpty members).flatMap Sign.tokens ++ .flowMappingEnd :: more)
    (hfuel : 2 * lexemes.length + 1 < fuel) :
    ∃ entries left,
      Yields (readFlowEntries fuel start before) lexemes left (before.reverse ++ entries) ∧
        left.map Lexeme.token = more ∧ MarksMembers members entries := by
  obtain ⟨fuel, rfl⟩ : ∃ less, fuel = less + 1 := ⟨fuel - 1, by omega⟩
  match members with
  | [] =>
      obtain ⟨next, rest, rfl, htoken, hrest⟩ := List.map_eq_cons_iff.mp hlexemes
      refine ⟨[], rest, ?_, hrest, trivial⟩
      rw [List.append_nil]
      exact yields_readFlowEntries_first (.inr htoken) (yields_readFlowEntry_end htoken)
  | (key, value) :: members =>
      have hmember : ∀ {place : List Lexeme}, 2 * place.length < fuel →
          place.map Lexeme.token = (Sign.key key).tokens ++ (value.signs.flatMap Sign.tokens ++
            ((Shape.memberSigns false members).flatMap Sign.tokens ++ .flowMappingEnd :: more)) →
          ∃ entries left,
            Yields (readFlowEntry fuel start before) place left (before.reverse ++ entries) ∧
              left.map Lexeme.token = more ∧ MarksMembers ((key, value) :: members) entries := by
        intro place hplace htokens
        -- A member begins with three lexemes: the mark of the key, its text and the colon.
        obtain ⟨mark, place, rfl, hmark, htokens⟩ := List.map_eq_cons_iff.mp htokens
        obtain ⟨name, place, rfl, hname, htokens⟩ := List.map_eq_cons_iff.mp htokens
        obtain ⟨colon, place, rfl, hcolon, htokens⟩ := List.map_eq_cons_iff.mp htokens
        simp only [List.length_cons] at hplace
        obtain ⟨fuel, rfl⟩ : ∃ less, fuel = less + 1 := ⟨fuel - 1, by omega⟩
        obtain ⟨node, middle, hnode, hmiddle, hmarks⟩ :=
          exists_yields_readNode value false false htokens (by omega : 2 * place.length < fuel)
        have hshorter := length_lt_of_shape htokens hmiddle
        obtain ⟨entries, left, hread, hleft, hrest⟩ :=
          exists_yields_readFlowEntries members start
            ((.scalar name.start none none .doubleQuoted (textOf key.glyphs), node) :: before)
            hmiddle (by omega : 2 * middle.length + 1 < fuel + 1)
        obtain ⟨next, rest, rfl, hbegins⟩ := exists_eq_cons_of_shape htokens
        refine ⟨(.scalar name.start none none .doubleQuoted (textOf key.glyphs), node) :: entries,
          left, yields_readFlowEntry_key hmark hname hcolon hbegins hnode ?_, hleft,
          ⟨rfl, rfl, rfl, rfl⟩, hmarks, hrest⟩
        simpa using hread
      rw [Shape.memberSigns, List.flatMap_append, List.flatMap_cons, List.flatMap_append,
        List.append_assoc, List.append_assoc, List.append_assoc] at hlexemes
      cases hbefore : before.isEmpty with
      | true =>
          rw [hbefore] at hlexemes
          obtain ⟨entries, left, hread, hfound⟩ := hmember (by omega) hlexemes
          obtain ⟨mark, rest, rfl, -⟩ := List.map_eq_cons_iff.mp hlexemes
          exact ⟨entries, left, yields_readFlowEntries_first (.inl hbefore) hread, hfound⟩
      | false =>
          rw [hbefore] at hlexemes
          obtain ⟨comma, rest, rfl, hcomma, hrest⟩ := List.map_eq_cons_iff.mp hlexemes
          simp only [List.length_cons] at hfuel
          obtain ⟨entries, left, hread, hfound⟩ := hmember (by omega) hrest
          exact ⟨entries, left, yields_readFlowEntries_comma hcomma hbefore hread, hfound⟩

end

end Markup

/-! ## Trees of shapes -/

namespace Tree

variable {target? : Nat → Option Markup} {depth left : Nat}

/-- The tree of an entry is that of its key and that of its value. -/
def expandEntry (target? : Nat → Option Markup) (depth : Nat) :
    Markup × Markup → StateM Nat (Tree × Tree) := fun entry => do
  let key ← expand target? depth entry.1
  return (key, ← expand target? depth entry.2)

theorem expand_scalar (place : Mark) (number? : Option Nat) (tag? : Option Tag) (style : Style)
    (text : String) : (expand target? depth (.scalar place number? tag? style text)).run left =
      (.scalar place true tag? style text, left) := by
  rw [expand]
  rfl

theorem expand_sequence (place : Mark) (number? : Option Nat) (tag? : Option Tag)
    {items : List Markup} {trees : List Tree}
    (h : (items.mapM (expand target? depth)).run left = (trees, left)) :
    (expand target? (depth + 1) (.sequence place number? tag? items)).run left =
      (.sequence place tag? trees, left) := by
  rw [expand]
  simp only [follow, pure_bind, StateT.run_bind, h]
  rfl

theorem expand_mapping (place : Mark) (number? : Option Nat) (tag? : Option Tag)
    {entries : List (Markup × Markup)} {trees : List (Tree × Tree)}
    (h : (entries.mapM (expandEntry target? depth)).run left = (trees, left)) :
    (expand target? (depth + 1) (.mapping place number? tag? entries)).run left =
      (.mapping place tag? trees, left) := by
  unfold expandEntry at h
  rw [expand]
  simp only [follow, pure_bind, StateT.run_bind, h]
  rfl

theorem run_bind_eq {α β : Type} {action : StateM Nat α} {f : α → StateM Nat β} {a : α}
    (h : action.run left = (a, left)) : (action >>= f).run left = (f a).run left := by
  rw [StateT.run_bind, h]
  rfl

theorem run_mapM_cons {α β : Type} {f : α → StateM Nat β} {a : α} {as : List α} {b : β} {bs : List β}
    (h : (f a).run left = (b, left)) (hrest : (as.mapM f).run left = (bs, left)) :
    ((a :: as).mapM f).run left = (b :: bs, left) := by
  rw [List.mapM_cons, run_bind_eq h, run_bind_eq hrest]
  rfl

mutual

/-- Within the limit of nesting, the tree of the markup of a shape is what YAML makes of the shape.
-/
theorem exists_expand (shape : Shape) {node : Markup} {depth : Nat} (hmarks : node.Marks shape)
    (hheight : shape.height ≤ depth) :
    ∃ tree, (∀ target? left, (expand target? depth node).run left = (tree, left)) ∧
      Dialect.yaml.Spells shape tree.node := by
  match shape, node with
  | .word w, .scalar place number? tag? style text =>
      obtain ⟨rfl, rfl, rfl, rfl⟩ := hmarks
      exact ⟨_, fun target? left => expand_scalar place none none _ _, rfl⟩
  | .text glyphs, .scalar place number? tag? style text =>
      obtain ⟨rfl, rfl, rfl, rfl⟩ := hmarks
      exact ⟨_, fun target? left => expand_scalar place none none _ _, rfl⟩
  | .array items, .sequence place number? tag? nodes =>
      obtain ⟨rfl, rfl, hitems⟩ := hmarks
      obtain ⟨depth, rfl⟩ := Nat.exists_eq_add_of_lt hheight
      obtain ⟨trees, hexpand, hspells⟩ :=
        exists_expand_items items hitems (Nat.le_of_succ_le_succ hheight)
      exact ⟨_, fun target? left => expand_sequence place none none (hexpand target? left), rfl,
        hspells⟩
  | .object members, .mapping place number? tag? entries =>
      obtain ⟨rfl, rfl, hmembers⟩ := hmarks
      obtain ⟨depth, rfl⟩ := Nat.exists_eq_add_of_lt hheight
      obtain ⟨trees, hexpand, hspells⟩ :=
        exists_expand_entries members hmembers (Nat.le_of_succ_le_succ hheight)
      exact ⟨_, fun target? left => expand_mapping place none none (hexpand target? left), rfl,
        hspells⟩

theorem exists_expand_items (items : List Shape) {nodes : List Markup} {depth : Nat}
    (hmarks : Markup.MarksItems items nodes) (hheight : Shape.itemsHeight items ≤ depth) :
    ∃ trees, (∀ target? left, (nodes.mapM (expand target? depth)).run left = (trees, left)) ∧
      Dialect.yaml.SpellsItems items (Tree.nodes trees) := by
  match items, nodes with
  | [], [] => exact ⟨[], fun _ _ => rfl, trivial⟩
  | item :: items, node :: nodes =>
      obtain ⟨hitem, hrest⟩ := hmarks
      obtain ⟨hfirst, hothers⟩ := Nat.max_le.mp hheight
      obtain ⟨tree, hexpand, hspells⟩ := exists_expand item hitem hfirst
      obtain ⟨trees, hexpands, hfound⟩ := exists_expand_items items hrest hothers
      exact ⟨tree :: trees, fun target? left =>
        run_mapM_cons (hexpand target? left) (hexpands target? left), hspells, hfound⟩

theorem exists_expand_entries (members : List (Key × Shape)) {entries : List (Markup × Markup)}
    {depth : Nat} (hmarks : Markup.MarksMembers members entries)
    (hheight : Shape.membersHeight members ≤ depth) :
    ∃ trees, (∀ target? left, (entries.mapM (expandEntry target? depth)).run left = (trees, left)) ∧
      Dialect.yaml.SpellsMembers members (Tree.nodePairs trees) := by
  match members, entries with
  | [], [] => exact ⟨[], fun _ _ => rfl, trivial⟩
  | (key, value) :: members, (name, node) :: entries =>
      obtain ⟨hname, hvalue, hrest⟩ := hmarks
      obtain ⟨hfirst, hothers⟩ := Nat.max_le.mp hheight
      obtain ⟨nameTree, hnameTree, hkey⟩ :=
        exists_expand (.text key.glyphs) hname (Nat.zero_le depth)
      obtain ⟨tree, hexpand, hspells⟩ := exists_expand value hvalue hfirst
      obtain ⟨trees, hexpands, hfound⟩ := exists_expand_entries members hrest hothers
      have hentry : ∀ target? left,
          (expandEntry target? depth (name, node)).run left = ((nameTree, tree), left) := by
        intro target? left
        unfold expandEntry
        rw [run_bind_eq (hnameTree target? left), run_bind_eq (hexpand target? left)]
        rfl
      exact ⟨(nameTree, tree) :: trees, fun target? left =>
        run_mapM_cons (hentry target? left) (hexpands target? left), hkey, hspells, hfound⟩

end

end Tree

/-! ## Whole texts -/

theorem not_isDocumentBoundary {token : Token} (h : Markup.beginsNode token = true) :
    token ≠ .streamEnd ∧ token ≠ .documentEnd ∧ Markup.isDocumentBoundary token = false := by
  cases token with
  | scalar _ _ | flowSequenceStart | flowMappingStart =>
      simp [Markup.isDocumentBoundary]
  | _ => simp [Markup.beginsNode] at h

theorem yields_readDocument {fuel : Nat} {next : Lexeme} {rest left : List Lexeme}
    (hbegins : Markup.beginsNode next.token = true) {node : Markup}
    (hnode : Yields (Markup.readNode fuel true false) (next :: rest) left node) :
    Yields (Markup.readDocument fuel) (next :: rest) left (some node) := by
  obtain ⟨hend, hdocument, hinside⟩ := not_isDocumentBoundary hbegins
  refine (yields_peek next rest).bind ?_
  split
  next heq => exact absurd heq hend
  next heq => exact absurd heq hdocument
  next =>
    simp only [hinside, Bool.not_false, if_true]
    intro reader
    rw [StateT.run_map, hnode reader]
    rfl

/-- A text that is written as an object, nested within the limit, is what YAML makes of the object.
-/
theorem exists_readTree {members : List (Key × Shape)} {text : String}
    (hwritten : WritesObject members text.toList)
    (hheight : (Shape.object members).height ≤ Tree.depthLimit) :
    ∃ tree, readTree text = .ok (tree, none) ∧
      Dialect.yaml.Spells (.object members) tree.node := by
  obtain ⟨lexemes, hscan, htokens⟩ := exists_scan hwritten.normalizeBreaks
  obtain ⟨node, left, hnode, hleft, hmarks⟩ :=
    Markup.exists_yields_readNode (.object members) true false htokens
      (by omega : 2 * lexemes.length < 4 * lexemes.length + 8)
  obtain ⟨next, rest, rfl, hbegins⟩ := Markup.exists_eq_cons_of_shape htokens
  obtain ⟨tree, hexpand, hspells⟩ := Tree.exists_expand (.object members) hmarks hheight
  have hread : Markup.read text = .ok (some node, Markup.faultBehind? left) := by
    have hdocument := yields_readDocument hbegins hnode
      ⟨[], .plain .endOfText .start, [], Markup.standardHandles⟩
    simp only [Markup.read, forbiddenCharacter?_eq_none hwritten.isAllowed_of_mem, hscan,
      Option.getD_none, hdocument]
  have hbehind : Markup.faultBehind? left = none := by
    obtain ⟨last, others, rfl, hlast, -⟩ := List.map_eq_cons_iff.mp hleft
    simp [Markup.faultBehind?, hlast]
  have htree : Tree.ofMarkup node = tree := by
    simp only [Tree.ofMarkup, hexpand]
  refine ⟨tree, ?_, hspells⟩
  simp only [readTree, hread, hbehind, Except.map, Option.map_some, htree, Option.getD_some]

end ResourceTemplate.Yaml

import ResourceTemplate.Command.Invocation

/-!
# Reading command lines

The words of a command line are read one after the other.  A value that has been seen is settled,
that is checked and kept, only when the next option or path begins or the line ends; so a word that
is no option at all is reported even if a value before it is wrong.  A value that is attached to its
option is settled at once.  Behind two hyphens every word stands for a path.
-/

namespace ResourceTemplate.Command

/-- Why a command line leaves nothing to run. -/
inductive Ending where
  | mistake (cause : UsageError)
  /-- Help is asked for, with a command or with the program. -/
  | help (verb? : Option Verb)
  | version
deriving DecidableEq

/-- How far a command line has been read. -/
structure Progress where
  /-- The slots that are filled, in the order of the line. -/
  given : List (Slot × String)
  /-- The slot that is not settled yet; its value may still have to come. -/
  pending? : Option (Slot × Option String)
  /-- Whether two hyphens have been read. -/
  literal : Bool

namespace Progress

/-- Nothing has been read. -/
def start : Progress := ⟨[], none, false⟩

/-- Whether a slot is filled. -/
def has (p : Progress) (slot : Slot) : Bool := p.given.any fun entry => entry.1 = slot

/-- The values that a slot is filled with. -/
def values (p : Progress) (slot : Slot) : List String :=
  p.given.filterMap fun entry => if entry.1 = slot then some entry.2 else none

/-- Whether a slot may hold a value. -/
def check (slot : Slot) (value : String) : Except Ending Unit :=
  match slot with
  | .template | .parameterFile =>
      if value = "" then .error (.mistake (.missingValue slot)) else .ok ()
  | .output =>
      if value = "" then .error (.mistake (.missingValue slot))
      else if (ListingFormat.ofName? value).isSome then .ok ()
      else .error (.mistake (.invalidValue slot value))
  | .parameter =>
      if (Assignment.read? value.toList).isSome then .ok ()
      else .error (.mistake (.noAssignment value))
  | _ => .ok ()

/-- Fill a slot. -/
def fill (p : Progress) (slot : Slot) (value : String) : Except Ending Progress :=
  if p.has slot && !slot.repeatable then .error (.mistake (.repeated slot))
  else
    match check slot value with
    | .error e => .error e
    | .ok () => .ok { p with given := p.given ++ [(slot, value)] }

/-- Settle what is pending. -/
def settle (p : Progress) : Except Ending Progress :=
  match p.pending? with
  | none => .ok p
  | some (slot, none) => .error (.mistake (.missingValue slot))
  | some (slot, some value) => { p with pending? := none }.fill slot value

/-- A slot begins whose value is told later, or is not settled yet. -/
def await (p : Progress) (slot : Slot) (value? : Option String) : Except Ending Progress :=
  p.settle.map fun p => { p with pending? := some (slot, value?) }

/-- A slot is filled at once. -/
def attach (p : Progress) (slot : Slot) (value : String) : Except Ending Progress :=
  match p.settle with
  | .error e => .error e
  | .ok p => p.fill slot value

/-- A switch is given behind a command, or before any. -/
def switch (p : Progress) (verb? : Option Verb) (slot : Slot) : Except Ending Progress :=
  match p.settle with
  | .error e => .error e
  | .ok p =>
      match slot with
      | .help => .error (.help verb?)
      | .version => .error .version
      | _ => p.fill slot ""

/-- An option is named in full; the word may hold its value behind an equals sign. -/
def readLong (verb? : Option Verb) (word : List Char) (p : Progress) : Except Ending Progress :=
  let name := String.ofList (word.takeWhile (· ≠ '='))
  match (Slot.options verb?).find? fun slot => slot.long? = some name with
  | none => .error (.mistake (.unexpectedArgument ("--" ++ name)))
  | some slot =>
      match word.dropWhile (· ≠ '='), slot.valueName? with
      | [], none => p.switch verb? slot
      | [], some _ => p.await slot none
      | _ :: value, none =>
          .error (.mistake (.unexpectedValue slot (String.ofList value)))
      | _ :: value, some _ => p.attach slot (String.ofList value)

/-- Options are named by letters; what follows the letter of an option that takes a value is the
value, with or without an equals sign before it. -/
def readLetters (verb? : Option Verb) : List Char → Progress → Except Ending Progress
  | [], p => .ok p
  | c :: rest, p =>
      match (Slot.options verb?).find? fun slot => slot.letter? = some c with
      | none => .error (.mistake (.unexpectedArgument (String.ofList ['-', c])))
      | some slot =>
          match slot.valueName?, rest with
          | none, _ =>
              match p.switch verb? slot with
              | .error e => .error e
              | .ok p => readLetters verb? rest p
          | some _, [] => p.await slot none
          | some _, '=' :: value => p.attach slot (String.ofList value)
          | some _, value => p.attach slot (String.ofList value)

/-- A word that is neither an option nor the value of one. -/
def readPath (word : String) (p : Progress) : Except Ending Progress :=
  let taken := p.has .template || p.pending?.any fun pending => pending.1 = .template
  if taken then .error (.mistake (.unexpectedArgument word)) else p.await .template (some word)

/-- A word that names no option. -/
def readValue (word : String) (p : Progress) : Except Ending Progress :=
  match p.pending? with
  | some (slot, none) => .ok { p with pending? := some (slot, some word) }
  | _ => p.readPath word

/-- A word behind a command. -/
def readWord (verb : Verb) (word : String) (p : Progress) : Except Ending Progress :=
  if p.literal then p.readPath word
  else
    match word.toList with
    | ['-', '-'] => .ok { p with literal := true }
    | '-' :: '-' :: option => p.readLong (some verb) option
    | '-' :: c :: rest => p.readLetters (some verb) (c :: rest)
    | _ => p.readValue word

/-- The words behind a command. -/
def readWords (verb : Verb) : List String → Progress → Except Ending Progress
  | [], p => p.settle
  | word :: rest, p =>
      match p.readWord verb word with
      | .error e => .error e
      | .ok p => readWords verb rest p

/-- Two switches that do not go together; the one that came first is named first. -/
def conflict? (p : Progress) : Option UsageError :=
  if p.has .namespacesOnly && p.has .skipNamespaces then
    match p.given.find? fun entry => entry.1 = .namespacesOnly || entry.1 = .skipNamespaces with
    | some (.skipNamespaces, _) => some (.conflict .skipNamespaces .namespacesOnly)
    | _ => some (.conflict .namespacesOnly .skipNamespaces)
  else none

/-- How the template of a path is to be rendered. -/
def rendering (p : Progress) (template : String) : RenderOptions :=
  { template
    parameterFile? := (p.values .parameterFile).head?
    assignments := (p.values .parameter).filterMap fun text => Assignment.read? text.toList
    kinds := p.values .kind
    namespacesOnly := p.has .namespacesOnly
    skipNamespaces := p.has .skipNamespaces }

/-- The form of the listing. -/
def format (p : Progress) : ListingFormat :=
  ((p.values .output).head?.bind ListingFormat.ofName?).getD .yaml

/-- Where the objects are to be applied. -/
def cluster (p : Progress) : ClusterOptions :=
  { context? := (p.values .context).head?
    namespaceName? := (p.values .namespaceName).head?
    dryRun := p.has .dryRun }

/-- What a command is asked for when all is read. -/
def invocation (p : Progress) (verb : Verb) : Except Ending Invocation :=
  match p.conflict?, (p.values .template).head? with
  | some cause, _ => .error (.mistake cause)
  | none, none => .error (.mistake .missingTemplate)
  | none, some template =>
      match verb with
      | .process => .ok (.process (p.rendering template) p.format)
      | .apply => .ok (.apply (p.rendering template) p.cluster)

end Progress

/-- The name of the command that gives help. -/
def helpName : String := "help"

/-- The words behind the command that gives help: at most one, the name of a command. -/
def readHelp : List String → Ending
  | [] => .help none
  | word :: rest =>
      match Verb.ofName? word, rest with
      | none, [] => if word = helpName then .help none else .mistake (.unknownCommand word)
      | none, extra :: _ =>
          .mistake (.unknownCommand (if word = helpName then extra else word))
      | some verb, [] => .help (some verb)
      | some _, extra :: _ => .mistake (.unknownCommand extra)

/-- A word behind two hyphens that stand before any command. -/
def literalMistake (word : String) : UsageError :=
  if (Verb.ofName? word).isSome || word = helpName then .unexpectedArgument word
  else .unknownCommand word

/-- The words of a command line from where no command has been named yet. -/
def readFrom (p : Progress) : List String → Except Ending Invocation
  | [] => .error (.mistake (if p.given.isEmpty then .nothing else .missingCommand))
  | word :: rest =>
      if p.literal then .error (.mistake (literalMistake word))
      else
        match Verb.ofName? word with
        | some verb =>
            match Progress.start.readWords verb rest with
            | .error e => .error e
            | .ok p => p.invocation verb
        | none =>
            if word = helpName then .error (readHelp rest)
            else
              match word.toList with
              | ['-', '-'] => readFrom { p with literal := true } rest
              | '-' :: '-' :: option =>
                  match p.readLong none option with
                  | .error e => .error e
                  | .ok p => readFrom p rest
              | '-' :: c :: letters =>
                  match p.readLetters none (c :: letters) with
                  | .error e => .error e
                  | .ok p => readFrom p rest
              | _ => .error (.mistake (.unknownCommand word))

/-- What a command line asks for. -/
def read (words : List String) : Except Ending Invocation := readFrom .start words

end ResourceTemplate.Command

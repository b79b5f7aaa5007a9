import ResourceTemplate.Command.Slot

/-!
# Mistakes in command lines

Each mistake has a wording of its own, which names the word or the option that it is about.
-/

namespace ResourceTemplate.Command

/-- What is wrong with a command line. -/
inductive UsageError where
  /-- Nothing is given at all. -/
  | nothing
  | missingCommand
  | unknownCommand (word : String)
  | unexpectedArgument (word : String)
  /-- A switch is given a value. -/
  | unexpectedValue (slot : Slot) (value : String)
  | missingValue (slot : Slot)
  | invalidValue (slot : Slot) (value : String)
  /-- A value for a parameter is no assignment. -/
  | noAssignment (text : String)
  | repeated (slot : Slot)
  | conflict (first second : Slot)
  | missingTemplate
deriving DecidableEq

/-- What the program is for. -/
def purpose : String := "Render parameterized resource templates and apply them to a cluster"

/-- The name of the program. -/
def programName : String := "kubeplate"

/-- The version of the program. -/
def programVersion : String := "0.1.0"

/-- The wording of the mistake. -/
def UsageError.message : UsageError → String
  | nothing => purpose
  | missingCommand => s!"error: '{programName}' requires a subcommand but one was not provided"
  | unknownCommand word => s!"error: unrecognized subcommand '{word}'"
  | unexpectedArgument word => s!"error: unexpected argument '{word}' found"
  | unexpectedValue slot value =>
      s!"error: unexpected value '{value}' for '{slot.display}' found; no more were expected"
  | missingValue slot => s!"error: a value is required for '{slot.display}' but none was supplied"
  | invalidValue slot value => s!"error: invalid value '{value}' for '{slot.display}'"
  | noAssignment text =>
      s!"error: invalid value '{text}' for '{Slot.parameter.display}': "
        ++ Assignment.expectation text
  | repeated slot => s!"error: the argument '{slot.display}' cannot be used multiple times"
  | conflict first second =>
      s!"error: the argument '{first.display}' cannot be used with '{second.display}'"
  | missingTemplate =>
      "error: the following required arguments were not provided:\n  " ++ Slot.template.display

end ResourceTemplate.Command

import ResourceTemplate.Command.UsageError

/-!
# Help

What is told about the commands and their options to someone who asks, or who asks for nothing.
-/

namespace ResourceTemplate.Command

/-- How an option is listed in the usage of a command. -/
def Slot.usage (slot : Slot) : String :=
  let name := match slot.letter? with
    | some letter => String.ofList ['-', letter, ',', ' '] ++ slot.display
    | none => "    " ++ slot.display
  "  " ++ name ++ "\n"

/-- The first line of the usage of a command, or of the program. -/
def synopsis : Option Verb → String
  | none => s!"Usage: {programName} [OPTIONS] <COMMAND>\n"
  | some verb => s!"Usage: {programName} {verb.name} [OPTIONS] {Slot.template.display}\n"

/-- The commands with what they do. -/
def commandList : String :=
  "\nCommands:\n  process  Render a template and print the resulting objects\n"
    ++ "  apply    Render a template and create or update its objects in the cluster\n"
    ++ "  help     Print this message or the help of the given subcommand(s)\n"

/-- What a command is for. -/
def Verb.purpose : Verb → String
  | process => "Render a template and print the resulting objects"
  | apply => "Render a template and create or update its objects in the cluster"

/-- The help on a command, or on the program. -/
def helpText (verb? : Option Verb) : String :=
  let options := "\nOptions:\n" ++ String.join ((Slot.options verb?).map Slot.usage)
  match verb? with
  | none => purpose ++ "\n\n" ++ synopsis none ++ commandList ++ options
  | some verb => verb.purpose ++ "\n\n" ++ synopsis (some verb) ++ options

/-- What is told of the version of the program. -/
def versionText : String := s!"{programName} {programVersion}\n"

/-- What is said about a mistake in a command line. -/
def UsageError.report (e : UsageError) : String :=
  match e with
  | nothing => helpText none
  | _ => e.message ++ "\n\nFor more information, try '--help'.\n"

end ResourceTemplate.Command

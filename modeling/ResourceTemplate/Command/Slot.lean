import ResourceTemplate.Listing
import ResourceTemplate.Template.Assignment

/-!
# What a command line may say

A command line names a command and fills in slots: the path of a template, which stands by itself,
and options, which are named with two hyphens or, some of them, with one hyphen and one letter.  An
option either takes a value or is a switch.
-/

namespace ResourceTemplate.Command

/-- The commands. -/
inductive Verb where
  /-- Render a template and list the objects. -/
  | process
  /-- Render a template and apply the objects to a cluster. -/
  | apply
deriving DecidableEq

namespace Verb

/-- The name of a command. -/
def name : Verb → String
  | process => "process"
  | apply => "apply"

/-- The command of a name. -/
def ofName? (word : String) : Option Verb :=
  [process, apply].find? fun verb => verb.name = word

end Verb

/-- What a command line may fill in. -/
inductive Slot where
  | template
  | parameter
  | parameterFile
  | kind
  | namespacesOnly
  | skipNamespaces
  | output
  | context
  | namespaceName
  | dryRun
  | verbose
  | help
  | version
deriving DecidableEq

namespace Slot

/-- The long name of an option. -/
def long? : Slot → Option String
  | template => none
  | parameter => some "param"
  | parameterFile => some "param-file"
  | kind => some "kind"
  | namespacesOnly => some "namespaces-only"
  | skipNamespaces => some "skip-namespaces"
  | output => some "output"
  | context => some "context"
  | namespaceName => some "namespace"
  | dryRun => some "dry-run"
  | verbose => some "verbose"
  | help => some "help"
  | version => some "version"

/-- The letter of an option. -/
def letter? : Slot → Option Char
  | parameter => some 'p'
  | output => some 'o'
  | namespaceName => some 'n'
  | verbose => some 'v'
  | help => some 'h'
  | version => some 'V'
  | _ => none

/-- What messages call the value of a slot; a switch has none. -/
def valueName? : Slot → Option String
  | template => some "TEMPLATE"
  | parameter => some "NAME=VALUE"
  | parameterFile => some "FILE"
  | kind => some "KIND"
  | output => some "OUTPUT"
  | context => some "CONTEXT"
  | namespaceName => some "NAMESPACE"
  | _ => none

/-- Whether a slot may be filled more than once. -/
def repeatable (slot : Slot) : Bool := slot = parameter || slot = kind

/-- What messages call a slot. -/
def display (slot : Slot) : String :=
  match slot.long?, slot.valueName? with
  | some long, some value => s!"--{long} <{value}>"
  | some long, none => s!"--{long}"
  | none, some value => s!"<{value}>"
  | none, none => ""

/-- The options that every command has which renders a template. -/
def ofRendering : List Slot :=
  [parameter, parameterFile, kind, namespacesOnly, skipNamespaces]

/-- The options that may be given behind a command, or before any. -/
def options : Option Verb → List Slot
  | none => [verbose, help, version]
  | some .process => ofRendering ++ [output, verbose, help]
  | some .apply => ofRendering ++ [context, namespaceName, dryRun, verbose, help]

end Slot

end ResourceTemplate.Command

import Backplane.CommandLine.Scope

/-!
# Refusals

A command line that names no command is refused; so is one that asks for help or the version, which
is shown instead.
-/
namespace Backplane.CommandLine

inductive Refusal where
  /-- An argument that may not be there. -/
  | unknownArgument
  /-- A word that leads nowhere. -/
  | invalidSubcommand
  /-- No value, or none of those possible. -/
  | invalidValue
  /-- A value that can not be read. -/
  | unreadableValue (fault : ValueFault)
  /-- Given twice. -/
  | conflict
  /-- A value for a flag. -/
  | tooManyValues
  | missingArgument
  | missingSubcommand
  /-- Nothing is given where a word has to follow. -/
  | nothingGiven (scope : Scope)
  | help (scope : Scope)
  | version
  deriving DecidableEq, Repr

namespace Refusal

/-- The name of the cause. -/
def kind : Refusal → String
  | .unknownArgument => "UnknownArgument"
  | .invalidSubcommand => "InvalidSubcommand"
  | .invalidValue => "InvalidValue"
  | .unreadableValue _ => "ValueValidation"
  | .conflict => "ArgumentConflict"
  | .tooManyValues => "TooManyValues"
  | .missingArgument => "MissingRequiredArgument"
  | .missingSubcommand => "MissingSubcommand"
  | .nothingGiven _ => "DisplayHelpOnMissingArgumentOrSubcommand"
  | .help _ => "DisplayHelp"
  | .version => "DisplayVersion"

/-- The line that shows the version. -/
def versionLine : String := "bpmcu 0.1.0\n"

/-- The text of a refusal, where it is more than its cause. -/
def message? : Refusal → Option String
  | .unreadableValue fault => some fault.message
  | .version => some versionLine
  | _ => none

/-- Asking for help or the version is no mistake. -/
def exitCode : Refusal → UInt8
  | .help _ => 0
  | .version => 0
  | _ => 2

end Refusal
end Backplane.CommandLine

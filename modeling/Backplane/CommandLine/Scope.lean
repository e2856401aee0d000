import Backplane.CommandLine.Argument

/-!
# Scopes

Where a command line has come to decides which arguments may follow: at its top, behind a command,
or behind what to do with a locate LED.
-/
namespace Backplane.CommandLine

/-- Follows `cli:57-150`. -/
inductive Scope where
  | top
  | info
  | status
  | locate
  | power
  | update
  | scan
  | locateSet
  | locateGet
  | locateReset
  deriving DecidableEq, Repr

namespace Scope

/-- The scopes that a word leads to. Follows `cli:57-150`. -/
def children : Scope → List (String × Scope)
  | .top => [("info", .info), ("status", .status), ("locate", .locate), ("power", .power),
      ("update", .update), ("scan", .scan)]
  | .locate => [("set", .locateSet), ("get", .locateGet), ("reset", .locateReset)]
  | _ => []

/-- The word that asks for help about the words that may follow. -/
def helpWord : String := "help"

/-- Whether a word may follow. -/
def hasChildren (scope : Scope) : Bool := !scope.children.isEmpty

/-- Whether a word leads on from a scope. -/
def leadsOn (scope : Scope) (word : String) : Bool :=
  scope.hasChildren && (word = helpWord || (scope.children.lookup word).isSome)

/-- What says which controller is meant. Follows `cli:43-55`. -/
def busOptions : List Argument := [.valued .bus, .valued .address, .flag .pec]

/-- The options of a scope that are not the same everywhere. Follows `cli:57-126`. -/
def ownOptions : Scope → List Argument
  | .top => [.flag .version]
  | .info => busOptions
  | .status => busOptions ++ [.flag .watch, .valued .interval]
  | .locate => busOptions
  | .power => busOptions
  | .update => busOptions ++ [.valued .file, .flag .erase, .valued .expectedVersion]
  | .scan => [.valued .config, .flag .dryRun]
  | .locateSet => []
  | .locateGet => []
  | .locateReset => []

/-- The options of a scope. -/
def options (scope : Scope) : List Argument :=
  scope.ownOptions ++ [.flag .verbose, .flag .help]

/-- The arguments without a name, in order. Follows `cli:89-150`. -/
def positionals : Scope → List Valued
  | .power => [.state]
  | .locateSet => [.channel, .state]
  | .locateGet => [.channel]
  | _ => []

/-- The arguments that must be given. Follows `cli:42-126`. -/
def required : Scope → List Valued
  | .top => []
  | .info => [.bus]
  | .status => [.bus]
  | .locate => [.bus]
  | .power => [.bus, .state]
  | .update => [.bus, .file]
  | .scan => [.config]
  | .locateSet => [.channel, .state]
  | .locateGet => [.channel]
  | .locateReset => []

/-- The option with a long name. -/
def optionNamed? (scope : Scope) (name : String) : Option Argument :=
  scope.options.find? fun a => a.long? = some name

/-- The option with a letter. -/
def optionLetter? (scope : Scope) (letter : Char) : Option Argument :=
  scope.options.find? fun a => a.short? = some letter

end Scope
end Backplane.CommandLine

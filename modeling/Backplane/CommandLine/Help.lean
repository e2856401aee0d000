import Backplane.CommandLine.Scope
import Backplane.Text.Column

/-!
# Help

What may stand on a command line, as a text and as the source of a manual page.
-/
namespace Backplane.CommandLine

/-- What an argument is for. -/
def Argument.purpose : Argument → String
  | .flag .verbose => "Verbosity level (-v, -vv)"
  | .flag .help => "Print help"
  | .flag .version => "Print version"
  | .flag .pec => "Enable SMBus packet error checking"
  | .flag .watch => "Keep polling and print the table whenever it changes"
  | .flag .erase => "Erase the update area first (may brick old V0 firmware)"
  | .flag .dryRun => "Only report what would be flashed"
  | .valued .bus => "I2C bus: number, /dev/i2c-N, or dummy:v0 / dummy:v1"
  | .valued .address => "MCU address (hex or decimal)"
  | .valued .interval => "Poll interval in milliseconds for --watch"
  | .valued .file => "Firmware image"
  | .valued .expectedVersion => "Version the MCU must report after the update"
  | .valued .config => "Scan configuration (TOML format)"
  | .valued .channel => "Drive channel (0-7)"
  | .valued .state => "New state (on, off)"

/-- How the value of an argument is called. -/
def Valued.placeholder : Valued → String
  | .bus => "<BUS>"
  | .address => "<ADDR>"
  | .interval => "<INTERVAL_MS>"
  | .file => "<FILE>"
  | .expectedVersion => "<EXPECTED_VERSION>"
  | .config => "<CONFIG>"
  | .channel => "<CHANNEL>"
  | .state => "<STATE>"

/-- How an option is written. -/
def Argument.written (a : Argument) : String :=
  let letter := (a.short?.map fun c => s!"-{c}").toList
  let name := (a.long?.map fun n => s!"--{n}").toList
  let value := match a with
    | .flag _ => ""
    | .valued v => " " ++ v.placeholder
  ", ".intercalate (letter ++ name) ++ value

namespace Scope

/-- What a scope is for. -/
def purpose : Scope → String
  | .top => "Backplane MCU management and firmware update tool"
  | .info => "Show protocol, firmware version and board type"
  | .status => "Show per-channel drive state"
  | .locate => "Control drive locate LEDs"
  | .power => "Signal host power state to the MCU"
  | .update => "Flash new MCU firmware"
  | .scan => "Update every MCU listed in a configuration file"
  | .locateSet => "Turn a locate LED on or off"
  | .locateGet => "Read a locate LED"
  | .locateReset => "Turn all locate LEDs off"

/-- The words that lead to a scope. -/
def words : Scope → List String
  | .top => []
  | .info => ["info"]
  | .status => ["status"]
  | .locate => ["locate"]
  | .power => ["power"]
  | .update => ["update"]
  | .scan => ["scan"]
  | .locateSet => ["locate", "set"]
  | .locateGet => ["locate", "get"]
  | .locateReset => ["locate", "reset"]

/-- The name of the tool. -/
def tool : String := "bpmcu"

/-- What a command line looks like that ends in a scope. -/
def usage (scope : Scope) : String :=
  let rest := if scope.hasChildren then ["<COMMAND>"] else scope.positionals.map (·.placeholder)
  " ".intercalate (tool :: scope.words ++ ["[OPTIONS]"] ++ rest)

/-- A part of a help text: its title and its entries. -/
abbrev HelpPart := String × List (String × String)

/-- The parts of a help text. -/
def helpParts (scope : Scope) : List HelpPart :=
  let commands := scope.children.map fun (word, child) => (word, child.purpose)
  let arguments := scope.positionals.map fun v => (v.placeholder, (Argument.valued v).purpose)
  let options := scope.options.map fun a => (a.written, a.purpose)
  [("Commands", commands), ("Arguments", arguments), ("Options", options)].filter
    fun part => !part.2.isEmpty

/-- The help text of a scope. -/
def help (scope : Scope) : String :=
  let entry (e : String × String) := s!"  {Text.column 44 e.1} {e.2}\n"
  let part (p : HelpPart) := s!"\n{p.1}:\n" ++ String.join (p.2.map entry)
  s!"{scope.purpose}\n\nUsage: {scope.usage}\n" ++ String.join (scope.helpParts.map part)

/-- A text in the source of a manual page. -/
def manualText (s : String) : String := s.replace "-" "\\-"

/-- The source of the manual page of a scope. -/
def manualPage (scope : Scope) : String :=
  let name := "-".intercalate (tool :: scope.words)
  let entry (e : String × String) := s!".TP\n{manualText e.1}\n{manualText e.2}\n"
  let part (p : HelpPart) := s!".SH {p.1.toUpper}\n" ++ String.join (p.2.map entry)
  s!".TH {name} 1\n.SH NAME\n{manualText name} \\- {manualText scope.purpose}\n" ++
    s!".SH SYNOPSIS\n{manualText scope.usage}\n" ++ String.join (scope.helpParts.map part)

end Scope
end Backplane.CommandLine

import Backplane.Drive
import Backplane.Linux.Path

/-!
# Arguments

An option is a flag, or takes a value. Arguments without a name take values as well. What was given
is kept as values of their own types, so an argument is read where it is taken in.
-/
namespace Backplane.CommandLine

/-- An option without a value. -/
inductive Flag where
  /-- More log lines; counts. -/
  | verbose
  | help
  | version
  | pec
  | watch
  | erase
  | dryRun
  deriving DecidableEq, Repr

/-- An argument with a value. -/
inductive Valued where
  | bus
  | address
  | interval
  | file
  | expectedVersion
  | config
  /-- A channel, by its position. -/
  | channel
  /-- On or off, by its position. -/
  | state
  deriving DecidableEq, Repr

/-- Any argument. -/
inductive Argument where
  | flag (f : Flag)
  | valued (v : Valued)
  deriving DecidableEq, Repr

def Flag.long : Flag → String
  | .verbose => "verbose"
  | .help => "help"
  | .version => "version"
  | .pec => "pec"
  | .watch => "watch"
  | .erase => "erase"
  | .dryRun => "dry-run"

def Flag.short : Flag → Char
  | .verbose => 'v'
  | .help => 'h'
  | .version => 'V'
  | .pec => 'p'
  | .watch => 'w'
  | .erase => 'E'
  | .dryRun => 'n'

def Valued.long? : Valued → Option String
  | .bus => some "bus"
  | .address => some "addr"
  | .interval => some "interval-ms"
  | .file => some "file"
  | .expectedVersion => some "expected-version"
  | .config => some "config"
  | .channel => none
  | .state => none

def Valued.short? : Valued → Option Char
  | .bus => some 'b'
  | .address => some 'a'
  | .interval => none
  | .file => some 'f'
  | .expectedVersion => some 'V'
  | .config => some 'c'
  | .channel => none
  | .state => none

def Argument.long? : Argument → Option String
  | .flag f => some f.long
  | .valued v => v.long?

def Argument.short? : Argument → Option Char
  | .flag f => some f.short
  | .valued v => v.short?

/-! ## Values -/

/-- Why a value can not be read. -/
inductive ValueFault where
  | hexAddress (fault : Text.NumeralFault)
  | decimalAddress (fault : Text.NumeralFault)
  | addressRange (text : String)
  | channel (fault : Text.NumeralFault)
  | channelRange (n : Nat)
  | interval (fault : Text.NumeralFault)
  deriving DecidableEq, Repr

def ValueFault.message : ValueFault → String
  | .hexAddress fault => s!"Invalid hex value: {fault.message}"
  | .decimalAddress fault => s!"Invalid number: {fault.message}"
  | .addressRange text => s!"Address {text} out of range (0x01-0x7f)"
  | .channel fault => s!"Invalid channel: {fault.message}"
  | .channelRange n => s!"Channel {n} out of range (0-7)"
  | .interval fault => fault.message

/-- The address in a text, hexadecimal behind `0x`. Follows `cli:7-17`. -/
def parseAddress (text : String) : Except ValueFault UInt8 := do
  let n ← match Linux.radixOf text.toList with
    | (16, digits) => (Text.numeral 16 Text.wordLimit digits).mapError .hexAddress
    | (_, digits) => (Text.numeral 10 Text.wordLimit digits).mapError .decimalAddress
  match Linux.target? n with
  | some address => pure address
  | none => throw (.addressRange text)

/-- The channel in a text. Follows `cli:20-27`. -/
def parseChannel (text : String) : Except ValueFault Nat := do
  let n ← (Text.numeral 10 Text.longLimit text.toList).mapError .channel
  if n < channelCount then pure n else throw (.channelRange n)

/-- The number of milliseconds in a text. -/
def parseInterval (text : String) : Except ValueFault Nat :=
  (Text.numeral 10 Text.longLimit text.toList).mapError .interval

/-- Whether a text says on, if it says on or off. Follows `cli:152-162`. -/
def parseSwitch? : String → Option Bool
  | "on" => some true
  | "off" => some false
  | _ => none

end Backplane.CommandLine

import Backplane.Number.Shortest
import Backplane.Linux.Path
import Backplane.Text.Path
import Backplane.Text.Quoted
import Backplane.Toml.Document

/-!
# Scan configurations

A scan configuration lists targets: a bus, maybe the addresses to expect a controller at, maybe an
image and the version it carries. It is written as a document with an array of tables `target`.
Main definitions: `ScanTarget.probeList`, what is visited at a target, and `ScanConfig.parse`.
-/
namespace Backplane

/-- One bus to scan. Follows `commands/scan:53-64`. -/
structure ScanTarget where
  name : String
  /-- A bus argument. -/
  bus : String
  /-- The addresses to expect a controller at. -/
  addresses : Option (List UInt8)
  /-- The image to flash. -/
  firmware : Option String
  /-- The version the image carries. -/
  version : Option String
  deriving DecidableEq, Repr

namespace ScanTarget

/-- The addresses probed at a target that lists none. Follows `commands/scan:30`. -/
def defaultAddresses : List UInt8 := [0x2A, 0x2B, 0x2C]

/-- The addresses to visit, each with whether a controller is expected there. Follows
`commands/scan:66-74`. -/
def probeList (t : ScanTarget) : List (UInt8 × Bool) :=
  match t.addresses with
  | some addresses => addresses.map fun a => (a, true)
  | none => defaultAddresses.map fun a => (a, false)

end ScanTarget

/-! ## Failures -/

/-- What a value was expected to be. -/
inductive ScanShape where
  | target
  | sequence
  | text
  | path
  deriving DecidableEq, Repr

def ScanShape.name : ScanShape → String
  | .target => "struct TomlTarget"
  | .sequence => "a sequence"
  | .text => "a string"
  | .path => "path string"

/-- Why a document is no scan configuration. -/
inductive ScanConfigError where
  /-- The text is no document at all. -/
  | unreadable
  /-- A value has another type than it should. -/
  | type (found : String) (expected : ScanShape)
  /-- A target written as an array has too few items. -/
  | length (items : Nat)
  /-- A target has no bus. -/
  | missingBus
  /-- A bus is neither a number of 32 bits nor a text. -/
  | badBus
  /-- An address is neither a number of 32 bits nor a text. -/
  | badAddress
  | hexAddress (fault : Text.NumeralFault)
  | decimalAddress (fault : Text.NumeralFault)
  /-- A number is no address. -/
  | addressRange (n : Nat)
  deriving DecidableEq, Repr

def ScanConfigError.message : ScanConfigError → String
  | .unreadable => "not a TOML document"
  | .type found expected => s!"invalid type: {found}, expected {expected.name}"
  | .length items => s!"invalid length {items}, expected struct TomlTarget with 5 elements"
  | .missingBus => "missing field `bus`"
  | .badBus => "data did not match any variant of untagged enum NumOrPath"
  | .badAddress => "data did not match any variant of untagged enum HexOrInt"
  | .hexAddress fault => s!"invalid hex: {fault.message}"
  | .decimalAddress fault => s!"invalid number: {fault.message}"
  | .addressRange n => s!"address 0x{Text.hex 1 n} out of range (0x01-0x7f)"

namespace ScanConfig
open Toml (Value Entries)

/-! ## Values -/

/-- What a value is, in failures. -/
def describe : Value → String
  | .text s => "string " ++ Text.quoted s
  | .integer n => s!"integer `{n}`"
  | .float x => s!"floating point `{x.text}`"
  | .boolean b => s!"boolean `{b}`"
  | .moment => "map"
  | .array _ _ => "sequence"
  | .table _ _ => "map"

/-- A value of another type than expected. -/
def mismatch {α : Type} (expected : ScanShape) (value : Value) : Except ScanConfigError α :=
  .error (.type (describe value) expected)

def readText (expected : ScanShape) : Value → Except ScanConfigError String
  | .text s => .ok s
  | value => mismatch expected value

def readItems : Value → Except ScanConfigError (List Value)
  | .array _ items => .ok items
  | value => mismatch .sequence value

/-- A number of 32 bits. -/
def word? (n : Int) : Option Nat :=
  if 0 ≤ n ∧ n ≤ Text.wordLimit then some n.toNat else none

/-- A bus: a number stands for the argument with its digits. Follows `commands/scan:116-133`. -/
def readBus : Value → Except ScanConfigError String
  | .text s => .ok s
  | .integer n => ((word? n).map toString).elim (.error .badBus) .ok
  | _ => .error .badBus

/-! ## Addresses -/

/-- An address as it is written. Follows `commands/scan:144-147`. -/
inductive Written where
  | number (n : Nat)
  | text (s : String)
  deriving DecidableEq, Repr

def readWritten : Value → Except ScanConfigError Written
  | .text s => .ok (.text s)
  | .integer n => (word? n).elim (.error .badAddress) fun n => .ok (.number n)
  | _ => .error .badAddress

/-- The number in a text, hexadecimal behind `0x`; blanks around it are ignored. Follows
`commands/scan:169-176`. -/
def parseNumber (s : String) : Except ScanConfigError Nat :=
  let name := Text.trimChars s.toList
  match Linux.radixOf name with
  | (16, digits) => (Text.numeral 16 Text.wordLimit digits).mapError .hexAddress
  | (_, digits) => (Text.numeral 10 Text.wordLimit digits).mapError .decimalAddress

/-- The number an address is written as. -/
def Written.number? : Written → Except ScanConfigError Nat
  | .number n => .ok n
  | .text s => parseNumber s

/-- The address that is written. Follows `commands/scan:152-162`. -/
def Written.address (w : Written) : Except ScanConfigError UInt8 := do
  let n ← w.number?
  match Linux.target? n with
  | some address => pure address
  | none => throw (.addressRange n)

/-- A list of addresses. That every item is a number or a text is seen to before any of them is
read. Follows `commands/scan:136-166`. -/
def readAddresses (value : Value) : Except ScanConfigError (List UInt8) := do
  let items ← readItems value
  let written ← items.mapM readWritten
  written.mapM Written.address

/-! ## Targets -/

/-- The fields of a target, in the order they have when a target is written as an array. -/
inductive Field where
  | name
  | bus
  | addresses
  | firmware
  | version
  deriving DecidableEq, Repr

namespace Field

def all : List Field := [.name, .bus, .addresses, .firmware, .version]

def key : Field → String
  | .name => "name"
  | .bus => "bus"
  | .addresses => "addresses"
  | .firmware => "firmware"
  | .version => "version"

/-- Whether a target written as an array can end before the field. -/
def mayLack (field : Field) : Bool := field = .addresses

end Field

/-- A target as it is written. Follows `commands/scan:41-49`. -/
structure Draft where
  name : Option String := none
  bus : Option String := none
  addresses : Option (List UInt8) := none
  firmware : Option String := none
  version : Option String := none
  deriving DecidableEq, Repr

namespace Draft

/-- Reads the value of a field. -/
def set (d : Draft) (value : Value) : Field → Except ScanConfigError Draft
  | .name => do pure { d with name := some (← readText .text value) }
  | .bus => do pure { d with bus := some (← readBus value) }
  | .addresses => do pure { d with addresses := some (← readAddresses value) }
  | .firmware => do pure { d with firmware := some (← readText .path value) }
  | .version => do pure { d with version := some (← readText .text value) }

/-- Reads the fields of a table in the order they are written; other keys mean nothing. -/
def ofEntries (entries : Entries) : Except ScanConfigError Draft :=
  entries.foldlM (fun d (key, value) =>
    match Field.all.find? fun f => f.key = key with
    | some field => d.set value field
    | none => pure d) {}

/-- Reads fields from items, behind `before` other ones; what follows the last field means
nothing. -/
def ofItems (d : Draft) (before : Nat) : List Field → List Value → Except ScanConfigError Draft
  | [], _ => .ok d
  | field :: fields, [] =>
    if field.mayLack then ofItems d (before + 1) fields [] else .error (.length before)
  | field :: fields, value :: items => do
    let d ← d.set value field
    ofItems d (before + 1) fields items

def ofValue : Value → Except ScanConfigError Draft
  | .table _ entries => ofEntries entries
  | .array _ items => ofItems {} 0 Field.all items
  | .moment => .ok {}
  | value => mismatch .target value

/-- The target at a position in the configuration; its image is looked for from `base` on. Follows
`commands/scan:90-96`. -/
def complete (d : Draft) (base : String) (index : Nat) : Except ScanConfigError ScanTarget :=
  match d.bus with
  | none => .error .missingBus
  | some bus => .ok {
      name := d.name.getD s!"target{index}"
      bus
      addresses := d.addresses
      firmware := d.firmware.map (Text.joinPath base)
      version := d.version }

end Draft

/-- Reads targets from `index` on. -/
def readTargets (base : String) : (index : Nat) → List Value →
    Except ScanConfigError (List ScanTarget)
  | _, [] => .ok []
  | index, value :: rest => do
    let draft ← Draft.ofValue value
    let target ← draft.complete base index
    let targets ← readTargets base (index + 1) rest
    pure (target :: targets)

/-- The targets of a document. Follows `commands/scan:84-99`. -/
def ofEntries (base : String) (entries : Entries) : Except ScanConfigError (List ScanTarget) :=
  match entries.lookup "target" with
  | none => .ok []
  | some value => do
    let items ← readItems value
    readTargets base 0 items

/-- The targets of a scan configuration; images are looked for from `base` on. Follows
`commands/scan:84-99`. -/
def parse (base document : String) : Except ScanConfigError (List ScanTarget) :=
  match Toml.parse document with
  | none => .error .unreadable
  | some entries => ofEntries base entries

end ScanConfig
end Backplane

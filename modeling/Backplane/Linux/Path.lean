import Backplane.Linux.Config
import Backplane.Text.Blank
import Backplane.Text.Numeral

/-!
# Names of system buses and addresses

A bus is named by its number, by `i2c-` and its number, or by the path of its device file. An
address is a numeral, hexadecimal behind `0x`. Blanks around either are ignored.
-/
namespace Backplane.Linux
open Text

/-- Why a text names no bus. -/
inductive BusNameError where
  | missing
  | invalid (name : String)
  deriving DecidableEq, Repr

def BusNameError.message : BusNameError → String
  | .missing => "No I2C bus specified"
  | .invalid name => s!"Invalid I2C bus: {name}"

/-- The rest of a text behind a literal beginning, or the whole text without it. -/
def afterOptional (start text : List Char) : List Char :=
  if start.isPrefixOf text then text.drop start.length else text

/-- The device path of a bus. Follows `bpmcu-linux-i2c/device:343-356`. -/
def busPath (bus : String) : Except BusNameError String :=
  let name := trimChars bus.toList
  match name with
  | [] => .error .missing
  | '/' :: _ => .ok (String.ofList name)
  | _ =>
    match numeral 10 wordLimit (afterOptional "i2c-".toList name) with
    | .ok n => .ok s!"/dev/i2c-{n}"
    | .error _ => .error (.invalid (String.ofList name))

/-- Splits a numeral into its radix and digits: `0x` or `0X` announces base 16. -/
def radixOf : List Char → Nat × List Char
  | '0' :: 'x' :: rest => (16, rest)
  | '0' :: 'X' :: rest => (16, rest)
  | cs => (10, cs)

/-- Why a text names no target address. -/
inductive AddressError where
  | unreadable (text : String)
  | outOfRange (text : String)
  deriving DecidableEq, Repr

def AddressError.message : AddressError → String
  | .unreadable text => s!"Invalid I2C address: {text}"
  | .outOfRange text => s!"Invalid I2C address: {text} (must be 0x01-0x7f)"

/-- The target address a number stands for. -/
def target? (n : Nat) : Option UInt8 :=
  if 0x01 ≤ n ∧ n ≤ 0x7F then some (.ofNat n) else none

/-- The target address in a text. Follows `bpmcu-linux-i2c/device:359-374`. -/
def parseAddress (text : String) : Except AddressError UInt8 :=
  let name := trimChars text.toList
  match numeral (radixOf name).1 wordLimit (radixOf name).2 with
  | .error _ => .error (.unreadable (String.ofList name))
  | .ok n =>
    match target? n with
    | some address => .ok address
    | none => .error (.outOfRange (String.ofList name))

end Backplane.Linux

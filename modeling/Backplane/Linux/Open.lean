import Backplane.Linux.Codec
import Backplane.Linux.Config
import Backplane.Log

/-!
# Opening a target on a system bus

The device file is opened, bound to the address, and told about error checking, in this order. A
configuration that names no file or no target is refused without a call.
-/
namespace Backplane.Linux

/-- Why a target could not be opened. Follows `bpmcu-linux-i2c/error:8-36`. -/
inductive OpenError where
  | noDevice
  | invalidAddress (address : UInt8)
  | openFailed (path : String) (source : IoError)
  | setAddressFailed (address : UInt8) (errno : Int)
  | setPecFailed (errno : Int)
  deriving DecidableEq, Repr

namespace OpenError

/-- The name of the cause. -/
def kind : OpenError → String
  | .noDevice => "NoDevice"
  | .invalidAddress _ => "InvalidAddress"
  | .openFailed _ _ => "OpenFailed"
  | .setAddressFailed _ _ => "SetAddressFailed"
  | .setPecFailed _ => "SetPecFailed"

def message : OpenError → String
  | .noDevice => "No I2C bus specified. Use /dev/i2c-N or a bus number"
  | .invalidAddress address =>
    s!"Invalid I2C address: 0x{Text.hexByte address} (must be 0x01-0x7f)"
  | .openFailed path source => s!"Failed to open {path}: {source.message}"
  | .setAddressFailed address errno =>
    s!"Failed to select target address 0x{Text.hexByte address}: {(IoError.os errno).message}"
  | .setPecFailed errno =>
    s!"Failed to enable packet error checking: {(IoError.os errno).message}"

/-- The failed call behind an error. Follows `bpmcu-linux-i2c/error:39-45`. -/
def source? : OpenError → Option IoError
  | .noDevice => none
  | .invalidAddress _ => none
  | .openFailed _ source => some source
  | .setAddressFailed _ errno => some (.os errno)
  | .setPecFailed errno => some (.os errno)

/-- The error as a failed transaction; without an error number it is an invalid argument. Follows
`bpmcu-linux-i2c/error:48-55`. -/
def toBusError (e : OpenError) : BusError :=
  .os ((e.source?.bind IoError.errno?).getD Errno.invalid)

end OpenError

/-- Refuses a configuration that names no file or no target. Follows `bpmcu-linux-i2c/device:140-148`. -/
def Config.check (c : Config) : Except OpenError Unit :=
  if c.device.isEmpty then .error .noDevice
  else if isTarget c.address then .ok ()
  else .error (.invalidAddress c.address)

/-- The calls that open a target. Follows `bpmcu-linux-i2c/device:152-178`. -/
def openCalls (c : Config) : KernelTask (Except OpenError Unit) := do
  match ← call (.openDevice c.device) with
  | .error e => pure (.error (.openFailed c.device e))
  | .ok () =>
    match ← call (.selectAddress c.address) with
    | .error errno => pure (.error (.setAddressFailed c.address (Errno.reported errno)))
    | .ok () =>
      if c.pec then do
        match ← call (.setPec 1) with
        | .error errno => pure (.error (.setPecFailed (Errno.reported errno)))
        | .ok () => pure (.ok ())
      else pure (.ok ())

/-- Opens a target. Follows `bpmcu-linux-i2c/device:139-190`. -/
def openTarget (c : Config) : KernelTask (Except OpenError Unit) :=
  match c.check with
  | .error e => pure (.error e)
  | .ok () => openCalls c

/-- The lines about an attempt to open a target. Follows `bpmcu-linux-i2c/device:139-190`. -/
def openLines (c : Config) (result : Except OpenError Unit) : List LogLine :=
  let opening : LogLine := ⟨.library, .debug, s!"linux_i2c: Opening {c.label}"⟩
  let pec := if c.pec then "on" else "off"
  match c.check, result with
  | .ok (), .ok () =>
    [opening, ⟨.library, .debug, s!"linux_i2c: Opened {c.label} (pec={pec})"⟩]
  | .ok (), .error e => [opening, ⟨.library, .error, s!"linux_i2c: {e.message}"⟩]
  | .error _, .error e => [⟨.library, .error, s!"linux_i2c: {e.message}"⟩]
  | .error _, .ok () => []

end Backplane.Linux

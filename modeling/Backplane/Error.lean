import Backplane.Bus.Error
import Backplane.Identity
import Backplane.Text.Hex

/-!
# Failures of controller operations

Every failure has a cause, a text, and a class that tools act on: whether a controller is there,
whether writing failed, whether it came back.
-/
namespace Backplane

/-- The operation that a firmware image failed in. -/
inductive ImageStep where
  | opening
  | sizing
  | mapping
  deriving DecidableEq, Repr

/-- A firmware image that could not be mapped. Follows `bpmcu-core/error:60-84`. -/
structure ImageError where
  step : ImageStep
  path : String
  source : IoError
  deriving DecidableEq, Repr

def ImageError.message (e : ImageError) : String :=
  match e.step with
  | .opening => s!"failed to open {e.path}: {e.source.message}"
  | .sizing => s!"failed to determine size of {e.path}: {e.source.message}"
  | .mapping => s!"failed to map {e.path}: {e.source.message}"

/-- Operations that are named in failures. -/
inductive Operation where
  | readVersion
  | readBoardType
  | readPresence
  | readFailures
  | readDriveType
  | readDriveTypes
  | readLocate
  | readLocateLed
  | setLocate
  | resetLocate
  | setHostPower
  | readLatch
  | reboot
  | eraseFlash
  | setFlashAddress
  | writeFlash
  | readBackFlash
  deriving DecidableEq, Repr

def Operation.name : Operation → String
  | .readVersion => "read firmware version"
  | .readBoardType => "read board type"
  | .readPresence => "read drive presence"
  | .readFailures => "read drive failures"
  | .readDriveType => "read drive type"
  | .readDriveTypes => "read drive types"
  | .readLocate => "read locate LEDs"
  | .readLocateLed => "reading the locate LED"
  | .setLocate => "set locate LED"
  | .resetLocate => "reset locate LEDs"
  | .setHostPower => "set host power state"
  | .readLatch => "read presence change latch"
  | .reboot => "reboot"
  | .eraseFlash => "erase flash"
  | .setFlashAddress => "set flash address"
  | .writeFlash => "write flash"
  | .readBackFlash => "read back flash"

/-- Follows `bpmcu-core/error:99-155`. -/
inductive Error where
  /-- The bus could not be opened or cannot carry the protocols. -/
  | notOperational (device : String)
  /-- Nothing known answered the identification read; `ident` is what did answer. -/
  | deviceAbsent (device : String) (ident : Option UInt8)
  /-- A transaction failed for good. -/
  | communication (device : String) (op : Operation) (source : BusError)
  /-- What was read back from flash differs from what was written. -/
  | verifyFailed (device : String) (offset : UInt32)
  /-- The protocol has no encoding for the operation. -/
  | unsupported (op : Operation) (protocol : Protocol)
  | invalidChannel (index : Nat)
  | invalidChunk (length : Nat)
  | invalidImageSize (size : Nat)
  | image (e : ImageError)
  /-- No ping was answered after the reboot. -/
  | deviceDidNotReturn (attempts : UInt32)
  /-- Version or board type was empty after the reboot. -/
  | deviceInfoUnavailable
  | versionMismatch (expected actual : String)
  deriving DecidableEq, Repr

/-- What a failure means to a tool. Follows `bpmcu-core/error:170-189`. -/
inductive FailureClass where
  | mcuAbsent
  | flashWriteFailed
  | communication
  | deviceDidNotReturn
  | deviceInfoUnavailable
  | versionMismatch
  | invalidImage
  | unsupported
  | usage
  deriving DecidableEq, Repr

def FailureClass.name : FailureClass → String
  | .mcuAbsent => "McuAbsent"
  | .flashWriteFailed => "FlashWriteFailed"
  | .communication => "Communication"
  | .deviceDidNotReturn => "DeviceDidNotReturn"
  | .deviceInfoUnavailable => "DeviceInfoUnavailable"
  | .versionMismatch => "VersionMismatch"
  | .invalidImage => "InvalidImage"
  | .unsupported => "Unsupported"
  | .usage => "Usage"

def ImageStep.name : ImageStep → String
  | .opening => "ImageOpen"
  | .sizing => "ImageSize"
  | .mapping => "ImageMap"

namespace Error

/-- The name of the cause. -/
def kind : Error → String
  | .notOperational _ => "NotOperational"
  | .deviceAbsent _ _ => "DeviceAbsent"
  | .communication _ _ _ => "Communication"
  | .verifyFailed _ _ => "VerifyFailed"
  | .unsupported _ _ => "Unsupported"
  | .invalidChannel _ => "InvalidChannel"
  | .invalidChunk _ => "InvalidChunk"
  | .invalidImageSize _ => "InvalidImageSize"
  | .image e => e.step.name
  | .deviceDidNotReturn _ => "DeviceDidNotReturn"
  | .deviceInfoUnavailable => "DeviceInfoUnavailable"
  | .versionMismatch _ _ => "VersionMismatch"

def message : Error → String
  | .notOperational device => s!"MCU init failed: {device} is not operational"
  | .deviceAbsent device none => s!"MCU init failed: no supported MCU at {device}"
  | .deviceAbsent device (some ident) =>
    s!"MCU init failed: no supported MCU at {device} (ident 0x{Text.hexUpper 2 ident.toNat})"
  | .communication device op source =>
    s!"failed to communicate with MCU {device} ({op.name}): {source.message}"
  | .verifyFailed device offset =>
    s!"MCU flash verify failed on {device} at offset 0x{Text.hexUpper 5 offset.toNat}"
  | .unsupported op protocol => s!"{op.name} is not supported by MCU protocol {protocol.name}"
  | .invalidChannel index => s!"invalid drive channel index {index}"
  | .invalidChunk length => s!"invalid flash chunk length {length}"
  | .invalidImageSize size => s!"incorrect firmware image size: {size} bytes"
  | .image e => e.message
  | .deviceDidNotReturn attempts =>
    s!"device did not come back after rebooting ({attempts} ping attempts)"
  | .deviceInfoUnavailable => "unable to read device information after update"
  | .versionMismatch expected actual =>
    s!"firmware version mismatch: expected '{expected}', read '{actual}'"

instance : ToString Error := ⟨message⟩

/-- The class of a failure. Follows `bpmcu-core/error:193-205`. -/
def failureClass : Error → FailureClass
  | .notOperational _ => .mcuAbsent
  | .deviceAbsent _ _ => .mcuAbsent
  | .verifyFailed _ _ => .flashWriteFailed
  | .invalidChunk _ => .flashWriteFailed
  | .communication _ _ _ => .communication
  | .unsupported _ _ => .unsupported
  | .invalidChannel _ => .usage
  | .invalidImageSize _ => .invalidImage
  | .image _ => .invalidImage
  | .deviceDidNotReturn _ => .deviceDidNotReturn
  | .deviceInfoUnavailable => .deviceInfoUnavailable
  | .versionMismatch _ _ => .versionMismatch

/-- There was nothing to talk to. Follows `bpmcu-core/error:208-210`. -/
def isAbsent (e : Error) : Bool := e.failureClass == .mcuAbsent

end Error
end Backplane

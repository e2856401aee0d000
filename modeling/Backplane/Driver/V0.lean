import Backplane.Driver.Basic
import Backplane.Flash.Frame

/-!
# The older generation

Its registers are not always stable, so masks, drive types and strings are read until the same
answer comes twice in a row. Drive types are asked for channel by channel, locate LEDs can be set
but not read back, and a flash chunk is one frame whose readback is tried five times.
-/
namespace Backplane.V0
open Driver

def versionRegister : UInt8 := 0x01
def eraseCommand : UInt8 := 0x3F
def flashWriteCommand : UInt8 := 0x40
def rebootCommand : UInt8 := 0x41
def presenceRegister : UInt8 := 0x42
def failuresRegister : UInt8 := 0x43
def locateOnCommand : UInt8 := 0x45
def locateOffCommand : UInt8 := 0x46
def driveTypeCommand : UInt8 := 0x47
def boardTypeRegister : UInt8 := 0x48
def powerOnCommand : UInt8 := 0x68
def powerOffCommand : UInt8 := 0x69
def flashReadCommand : UInt8 := 0x80

/-- The size of the version field. Follows `bpmcu-core/mcu/v0:47`. -/
def versionLength : Nat := 60

/-- The size of the board type field. Follows `bpmcu-core/mcu/v0:49`. -/
def boardTypeLength : Nat := 32

/-- Readbacks of a chunk before it counts as not written. Follows `bpmcu-core/mcu/v0:54`. -/
def verifyAttempts : Nat := 5

/-- Time before each readback, in microseconds. Follows `bpmcu-core/mcu/v0:56`. -/
def verifyDelay : UInt32 := 100000

/-- One read of the version field. Follows `bpmcu-core/mcu/v0:99-102`. -/
def readVersion : DeviceM.Try (List UInt8) :=
  ExceptT.mk do
    let (result, buffer) ← Device.readRawAt versionRegister (List.replicate versionLength 0)
    pure (result.map fun _ => buffer)

/-- One read of the board type field, with the number of bytes the device sent. Follows
`bpmcu-core/mcu/v0:114-117`. -/
def readBoardType : DeviceM.Try (List UInt8 × Nat) :=
  ExceptT.mk do
    let (result, buffer) ← Device.readBlock boardTypeRegister (List.replicate boardTypeLength 0)
    pure (result.map fun count => (buffer, count))

/-- One read of the type of a drive: the channel is selected first. Follows
`bpmcu-core/mcu/v0:174-178`. -/
def readDriveType (index : Nat) : DeviceM.Try UInt8 := do
  Device.writeByteData driveTypeCommand (.ofNat index)
  Device.readByte

/-- The firmware version, empty when it can not be read. Follows `bpmcu-core/mcu/v0:98-110`. -/
def firmwareVersion : DriverM String := do
  match ← (onDevice (confirmed "firmware version" readVersion).run : DriverM _) with
  | .ok raw => fieldText raw
  | .error e => do
    discard (communicationFailure .readVersion e)
    pure ""

/-- The board type, empty when it can not be read: early firmware does not know the register.
Follows `bpmcu-core/mcu/v0:113-129`. -/
def boardType : DriverM String := do
  match ← (onDevice (confirmed "board type" readBoardType).run : DriverM _) with
  | .ok (raw, count) => fieldText (raw.take count)
  | .error e => do
    let label := (← get).label
    Task.log .warn s!"{label}: board type not available ({e.message}), firmware may predate it"
    pure ""

/-- Forgets the masks, so that they are read again. Follows `bpmcu-core/mcu/v0:131-134`. -/
def refresh : DriverM Unit :=
  modify fun d => { d with presence := none, failures := none }

/-- Reads the presence mask and keeps it. Follows `bpmcu-core/mcu/v0:136-143`. -/
def fetchPresence : DriverM.Try UInt8 := do
  let mask ← communicate .readPresence
    (confirmed "presence" (Device.readByteData presenceRegister))
  modify fun d => { d with presence := some mask }
  pure mask

/-- Reads the failure mask and keeps it. Follows `bpmcu-core/mcu/v0:145-152`. -/
def fetchFailures : DriverM.Try UInt8 := do
  let mask ← communicate .readFailures
    (confirmed "failures" (Device.readByteData failuresRegister))
  modify fun d => { d with failures := some mask }
  pure mask

/-- Whether a drive is in a channel. Follows `bpmcu-core/mcu/v0:154-161`. -/
def channelPresent (index : Nat) : DriverM.Try Bool := do
  checkChannel index
  match (← get).presence with
  | some mask => pure (hasChannel mask index)
  | none => pure (hasChannel (← fetchPresence) index)

/-- Whether the drive of a channel has failed. Follows `bpmcu-core/mcu/v0:163-170`. -/
def channelFailed (index : Nat) : DriverM.Try Bool := do
  checkChannel index
  match (← get).failures with
  | some mask => pure (hasChannel mask index)
  | none => pure (hasChannel (← fetchFailures) index)

/-- The type of the drive in a channel. Follows `bpmcu-core/mcu/v0:172-181`. -/
def channelDriveType (index : Nat) : DriverM.Try DriveType := do
  checkChannel index
  let value ← communicate .readDriveType (confirmed "drive type" (readDriveType index))
  driveTypeOf index value

/-- Sets or clears the locate LED of a channel. Follows `bpmcu-core/mcu/v0:183-193`. -/
def setLocate (index : Nat) (on : Bool) : DriverM.Try Unit := do
  checkChannel index
  communicate .setLocate
    (Device.writeByteData (if on then locateOnCommand else locateOffCommand) (.ofNat index))

/-- The locate LED of a channel can not be read back. Follows `bpmcu-core/mcu/v0:196-202`. -/
def channelLocate (index : Nat) : DriverM.Try Bool := do
  checkChannel index
  throw (.unsupported .readLocateLed .v0)

/-- The locate LEDs can not be read back. Follows `bpmcu-core/mcu/v0:204-209`. -/
def locateMask : DriverM.Try UInt8 :=
  throw (.unsupported .readLocateLed .v0)

/-- Clears the locate LED of each channel in turn. Follows `bpmcu-core/mcu/v0:211-216`. -/
def resetLocate : DriverM.Try Unit :=
  (List.range channelCount).forM fun index => setLocate index false

/-- Tells the controller whether the host has power. Follows `bpmcu-core/mcu/v0:218-227`. -/
def setHostPower (on : Bool) : DriverM.Try Unit :=
  communicate .setHostPower (Device.writeByte (if on then powerOnCommand else powerOffCommand))

/-- Reads both masks and compares them with those seen last. Follows `bpmcu-core/mcu/v0:229-233`. -/
def hasStateChanged (cache : ChangeCache) : DriverM.Cached Bool := onCache cache do
  let presence ← fetchPresence
  let failures ← fetchFailures
  updateCache (fingerprint presence failures)

/-- Reboots the controller. Follows `bpmcu-core/mcu/v0:239-244`. -/
def reboot : DriverM.Try Unit := do
  let label := (← get).label
  Task.log .info s!"{label}: rebooting MCU"
  communicate .reboot (Device.writeByte rebootCommand)

/-- Erases the update area; writing starts over at its beginning. Follows `bpmcu-core/mcu/v0:246-253`. -/
def eraseFlash : DriverM.Try Unit := do
  let label := (← get).label
  Task.log .info s!"{label}: erasing MCU flash"
  communicate .eraseFlash (Device.writeByte eraseCommand)
  modify fun d => { d with flashOffset := 0 }

/-- Reads a written chunk back, `left` times at most. `last` is the failure of the readback before,
if it failed; the buffer is shared by all readbacks. Follows `bpmcu-core/mcu/v0:267-303`. -/
def verifyFrom (offset : UInt32) (bytes : List UInt8) :
    (left : Nat) → (last : Option BusError) → (buffer : List UInt8) → DriverM.Try Unit
  | 0, some e, _ => do throw (← communicationFailure .readBackFlash e)
  | 0, none, _ => verifyFailure offset
  | left + 1, _, buffer => do
    Task.delay verifyDelay
    let (result, buffer) ← (onDevice (Device.readAfterWrite
      (Flash.header flashReadCommand offset (.ofNat bytes.length)) buffer) : DriverM _)
    match result with
    | .error e => verifyFrom offset bytes left (some e) buffer
    | .ok () =>
      if buffer = bytes then
        modify fun d => { d with flashOffset := offset + .ofNat bytes.length }
      else do
        let label := (← get).label
        Task.log .debug
          s!"{label}: flash readback mismatch at 0x{Text.hexUpper 5 offset.toNat} (attempt {verifyAttempts - left})"
        verifyFrom offset bytes left none buffer

/-- Writes a chunk at the flash offset and reads it back. Follows `bpmcu-core/mcu/v0:255-304`. -/
def writeChunk (bytes : List UInt8) : DriverM.Try Unit := do
  let offset := (← get).flashOffset
  checkChunk offset bytes
  communicate .writeFlash
    (Device.writeRaw (Flash.header flashWriteCommand offset (.ofNat bytes.length) ++ bytes))
  verifyFrom offset bytes verifyAttempts none (List.replicate bytes.length 0)

end Backplane.V0

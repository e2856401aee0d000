import Backplane.Driver.Basic
import Backplane.Flash.Frame

/-!
# The newer generation

Its registers are stable. Drive types come in one word, locate LEDs in one mask that can be read
and written, and a latch remembers presence changes between two polls. A flash chunk is an address
frame, a data frame, and one readback after a pause.
-/
namespace Backplane.V1
open Driver

def boardTypeRegister : UInt8 := 0x02
def presenceRegister : UInt8 := 0x20
def failuresRegister : UInt8 := 0x21
def locateRegister : UInt8 := 0x23
def driveTypesRegister : UInt8 := 0x24
def latchRegister : UInt8 := 0x25
def powerRegister : UInt8 := 0x60
def versionRegister : UInt8 := 0xF0
def flashAddressCommand : UInt8 := 0xFA
def flashDataCommand : UInt8 := 0xFD
def eraseCommand : UInt8 := 0xFE
def rebootCommand : UInt8 := 0xFF

/-- The size of the version field. Follows `bpmcu-core/mcu/v1:38`. -/
def versionLength : Nat := 32

/-- The size of the board type field. Follows `bpmcu-core/mcu/v1:40`. -/
def boardTypeLength : Nat := 19

/-- Time between writing a chunk and reading it back, in microseconds. Follows `bpmcu-core/mcu/v1:44`. -/
def settleDelay : UInt32 := 50000

/-- The text field in a register, empty when it can not be read. Follows `bpmcu-core/mcu/v1:92-100`. -/
def readField (register : UInt8) (length : Nat) (op : Operation) : DriverM String := do
  match ← (onDevice (Device.readBlock register (List.replicate length 0)) : DriverM _) with
  | (.ok count, raw) => fieldText (raw.take count)
  | (.error e, _) => do
    discard (communicationFailure op e)
    pure ""

/-- The firmware version, empty when it can not be read. Follows `bpmcu-core/mcu/v1:102-105`. -/
def firmwareVersion : DriverM String := readField versionRegister versionLength .readVersion

/-- The board type, empty when it can not be read. Follows `bpmcu-core/mcu/v1:107-110`. -/
def boardType : DriverM String := readField boardTypeRegister boardTypeLength .readBoardType

/-- Forgets the masks and the types, so that they are read again. Follows `bpmcu-core/mcu/v1:112-116`. -/
def refresh : DriverM Unit :=
  modify fun d => { d with presence := none, failures := none, types := none }

/-- Reads the byte in a register. Follows `bpmcu-core/mcu/v1:118-122`. -/
def fetchByte (register : UInt8) (op : Operation) : DriverM.Try UInt8 :=
  communicate op (Device.readByteData register)

/-- The presence mask, read once in a poll cycle. Follows `bpmcu-core/mcu/v1:124-131`. -/
def presence : DriverM.Try UInt8 := do
  match (← get).presence with
  | some mask => pure mask
  | none => do
    let mask ← fetchByte presenceRegister .readPresence
    modify fun d => { d with presence := some mask }
    pure mask

/-- The failure mask, read once in a poll cycle. Follows `bpmcu-core/mcu/v1:133-140`. -/
def failures : DriverM.Try UInt8 := do
  match (← get).failures with
  | some mask => pure mask
  | none => do
    let mask ← fetchByte failuresRegister .readFailures
    modify fun d => { d with failures := some mask }
    pure mask

/-- The word of drive types, read once in a poll cycle. Follows `bpmcu-core/mcu/v1:142-152`. -/
def types : DriverM.Try UInt16 := do
  match (← get).types with
  | some word => pure word
  | none => do
    let word ← communicate .readDriveTypes (Device.readWordData driveTypesRegister)
    modify fun d => { d with types := some word }
    pure word

/-- Whether a drive is in a channel. Follows `bpmcu-core/mcu/v1:154-157`. -/
def channelPresent (index : Nat) : DriverM.Try Bool := do
  checkChannel index
  pure (hasChannel (← presence) index)

/-- Whether the drive of a channel has failed. Follows `bpmcu-core/mcu/v1:159-162`. -/
def channelFailed (index : Nat) : DriverM.Try Bool := do
  checkChannel index
  pure (hasChannel (← failures) index)

/-- The type of the drive in a channel. Follows `bpmcu-core/mcu/v1:164-168`. -/
def channelDriveType (index : Nat) : DriverM.Try DriveType := do
  checkChannel index
  let word ← types
  driveTypeOf index (unpackType word index)

/-- The locate LEDs of all channels. Follows `bpmcu-core/mcu/v1:190-192`. -/
def locateMask : DriverM.Try UInt8 := fetchByte locateRegister .readLocate

/-- Sets or clears the locate LED of a channel: the mask is read, and written only if the bit of the
channel has to change. Follows `bpmcu-core/mcu/v1:172-183`. -/
def setLocate (index : Nat) (on : Bool) : DriverM.Try Unit := do
  checkChannel index
  let current ← locateMask
  let bit := channelBit index
  let wanted := if on then current ||| bit else current &&& ~~~bit
  if wanted = current then pure ()
  else communicate .setLocate (Device.writeByteData locateRegister wanted)

/-- The locate LED of a channel. Follows `bpmcu-core/mcu/v1:185-188`. -/
def channelLocate (index : Nat) : DriverM.Try Bool := do
  checkChannel index
  pure (hasChannel (← locateMask) index)

/-- Clears every locate LED. Follows `bpmcu-core/mcu/v1:194-198`. -/
def resetLocate : DriverM.Try Unit :=
  communicate .resetLocate (Device.writeByteData locateRegister 0)

/-- Tells the controller whether the host has power. Follows `bpmcu-core/mcu/v1:200-204`. -/
def setHostPower (on : Bool) : DriverM.Try Unit :=
  communicate .setHostPower (Device.writeByteData powerRegister (if on then 1 else 0))

/-- Reads both masks and the latch and compares the masks with those seen last. Reading the latch
clears it, so a change it remembers is reported at once. Follows `bpmcu-core/mcu/v1:209-216`. -/
def hasStateChanged (cache : ChangeCache) : DriverM.Cached Bool := onCache cache do
  refresh
  let presence ← presence
  let failures ← failures
  let latch ← fetchByte latchRegister .readLatch
  let changed ← updateCache (fingerprint presence failures)
  pure (changed || latch != 0)

/-- Reboots the controller. Follows `bpmcu-core/mcu/v1:222-227`. -/
def reboot : DriverM.Try Unit := do
  let label := (← get).label
  Task.log .info s!"{label}: rebooting MCU"
  communicate .reboot (Device.writeByte rebootCommand)

/-- Erases the update area; writing starts over at its beginning. Follows `bpmcu-core/mcu/v1:229-236`. -/
def eraseFlash : DriverM.Try Unit := do
  let label := (← get).label
  Task.log .info s!"{label}: erasing MCU flash"
  communicate .eraseFlash (Device.writeByte eraseCommand)
  modify fun d => { d with flashOffset := 0 }

/-- One readback of as many bytes as the buffer holds. Follows `bpmcu-core/mcu/v1:252-255`. -/
def readBack (length : Nat) : DeviceM.Try (List UInt8) :=
  ExceptT.mk do
    let (result, buffer) ← Device.readRawAt flashDataCommand (List.replicate length 0)
    pure (result.map fun _ => buffer)

/-- Writes a chunk at the flash offset and reads it back. Follows `bpmcu-core/mcu/v1:238-271`. -/
def writeChunk (bytes : List UInt8) : DriverM.Try Unit := do
  let offset := (← get).flashOffset
  checkChunk offset bytes
  communicate .setFlashAddress
    (Device.writeRawAt flashAddressCommand (Flash.location offset (.ofNat bytes.length)))
  communicate .writeFlash (Device.writeRawAt flashDataCommand bytes)
  Task.delay settleDelay
  let readback ← communicate .readBackFlash (readBack bytes.length)
  if readback = bytes then
    modify fun d => { d with flashOffset := offset + .ofNat bytes.length }
  else verifyFailure offset

end Backplane.V1

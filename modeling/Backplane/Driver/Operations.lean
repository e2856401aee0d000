import Backplane.Driver.V0
import Backplane.Driver.V1

/-!
# Driver operations

What a driver can do, whichever generation it speaks. The generation of a driver never changes, so
each operation is a choice between two protocols.
-/
namespace Backplane.Driver

/-- Runs the operation that belongs to the generation of the driver. Follows
`bpmcu-core/mcu/mod:225-239`. -/
def byProtocol {α : Type} (v0 v1 : DriverM α) : DriverM α := do
  match (← get).protocol with
  | .v0 => v0
  | .v1 => v1

/-- Runs the operation that belongs to the generation of the driver and can fail. -/
def tryByProtocol {α : Type} (v0 v1 : DriverM.Try α) : DriverM.Try α :=
  ExceptT.mk (byProtocol v0.run v1.run)

/-- The firmware version, empty when it can not be read. Follows `bpmcu-core/mcu/mod:271-273`. -/
def firmwareVersion : DriverM String := byProtocol V0.firmwareVersion V1.firmwareVersion

/-- The board type, empty when it can not be read. Follows `bpmcu-core/mcu/mod:276-278`. -/
def boardType : DriverM String := byProtocol V0.boardType V1.boardType

/-- Generation, firmware version and board type. Follows `bpmcu-core/mcu/mod:281-287`. -/
def deviceInfo : DriverM DeviceInfo := do
  let protocol := (← get).protocol
  let firmwareVersion ← firmwareVersion
  let boardType ← boardType
  pure ⟨protocol, firmwareVersion, boardType⟩

/-- Starts a poll cycle: the masks are read again when they are needed. Follows
`bpmcu-core/mcu/mod:290-292`. -/
def refresh : DriverM Unit := byProtocol V0.refresh V1.refresh

/-- Whether a drive is in a channel. Follows `bpmcu-core/mcu/mod:295-297`. -/
def channelPresent (index : Nat) : DriverM.Try Bool :=
  tryByProtocol (V0.channelPresent index) (V1.channelPresent index)

/-- Whether the drive of a channel has failed. Follows `bpmcu-core/mcu/mod:300-302`. -/
def channelFailed (index : Nat) : DriverM.Try Bool :=
  tryByProtocol (V0.channelFailed index) (V1.channelFailed index)

/-- The type of the drive in a channel. Follows `bpmcu-core/mcu/mod:305-307`. -/
def channelDriveType (index : Nat) : DriverM.Try DriveType :=
  tryByProtocol (V0.channelDriveType index) (V1.channelDriveType index)

/-- Sets or clears the locate LED of a channel. Follows `bpmcu-core/mcu/mod:310-312`. -/
def setLocate (index : Nat) (on : Bool) : DriverM.Try Unit :=
  tryByProtocol (V0.setLocate index on) (V1.setLocate index on)

/-- The locate LED of a channel. Follows `bpmcu-core/mcu/mod:315-317`. -/
def channelLocate (index : Nat) : DriverM.Try Bool :=
  tryByProtocol (V0.channelLocate index) (V1.channelLocate index)

/-- The locate LEDs of all channels. Follows `bpmcu-core/mcu/mod:320-322`. -/
def locateMask : DriverM.Try UInt8 := tryByProtocol V0.locateMask V1.locateMask

/-- Clears every locate LED. Follows `bpmcu-core/mcu/mod:325-327`. -/
def resetLocate : DriverM.Try Unit := tryByProtocol V0.resetLocate V1.resetLocate

/-- Tells the controller whether the host has power. Follows `bpmcu-core/mcu/mod:330-332`. -/
def setHostPower (on : Bool) : DriverM.Try Unit :=
  tryByProtocol (V0.setHostPower on) (V1.setHostPower on)

/-- Reads both masks again and compares them with those seen last. Follows
`bpmcu-core/mcu/mod:337-339`. -/
def hasStateChanged (cache : ChangeCache) : DriverM.Cached Bool :=
  byProtocol (V0.hasStateChanged cache) (V1.hasStateChanged cache)

/-- Whether the controller answers the identification read. Follows `bpmcu-core/mcu/mod:342-344`. -/
def ping : DriverM Bool := do
  match ← (onDevice (Device.readByteData Protocol.identRegister).run : DriverM _) with
  | .ok _ => pure true
  | .error _ => pure false

/-- Reboots the controller. Follows `bpmcu-core/mcu/mod:347-349`. -/
def reboot : DriverM.Try Unit := tryByProtocol V0.reboot V1.reboot

/-- Erases the update area; writing starts over at its beginning. Follows
`bpmcu-core/mcu/mod:352-354`. -/
def eraseFlash : DriverM.Try Unit := tryByProtocol V0.eraseFlash V1.eraseFlash

/-- Writes a chunk at the flash offset and reads it back. Follows `bpmcu-core/mcu/mod:357-359`. -/
def writeChunk (bytes : List UInt8) : DriverM.Try Unit :=
  tryByProtocol (V0.writeChunk bytes) (V1.writeChunk bytes)

end Backplane.Driver

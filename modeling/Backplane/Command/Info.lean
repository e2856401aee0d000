import Backplane.Command.Connect
import Backplane.Driver.Operations

/-!
# The info command

Prints generation, firmware version and board type of a controller.
-/
namespace Backplane.Command

/-- A text that may be missing. Follows `commands/info:9-15`. -/
def orUnavailable (text : String) : String := if text.isEmpty then "(unavailable)" else text

/-- The block about the identity of a controller. Follows `commands/info:18-29`. -/
def identityBlock (label : String) (identity : DeviceInfo) : String :=
  s!"Device:           {label}\n" ++
  s!"Protocol:         {identity.protocol.name}\n" ++
  s!"Firmware version: {orUnavailable identity.firmwareVersion}\n" ++
  s!"Board type:       {orUnavailable identity.boardType}\n"

/-- Shows the identity of a controller. Follows `commands/info:32-44`. -/
def runInfo (args : BusArgs) : Step Unit := do
  let driver ← openDriver args
  let (identity, driver) ← (Driver.deviceInfo.run driver : Task _)
  if !identity.isComplete then
    Task.announce .warn s!"{driver.label}: device information incomplete"
  Task.print "Backplane MCU Information\n"
  Task.print "=========================\n"
  Task.print "\n"
  Task.print (identityBlock driver.label identity)

end Backplane.Command

import Backplane.Command.Connect
import Backplane.Driver.Operations

/-!
# Commands that switch something

Locate LEDs and the host power state.
-/
namespace Backplane.Command

/-- Sets or clears the locate LED of a channel. Follows `commands/locate:8-18`. -/
def runLocateSet (args : BusArgs) (channel : Nat) (on : Bool) : Step Unit := do
  let driver ← openDriver args
  onDriver (Driver.setLocate channel on) driver
  Task.announce .info s!"{driver.label}: locate LED {channel} {onOff on}"

/-- Shows the locate LED of a channel. Follows `commands/locate:21-26`. -/
def runLocateGet (args : BusArgs) (channel : Nat) : Step Unit := do
  let driver ← openDriver args
  let on ← onDriver (Driver.channelLocate channel) driver
  Task.print s!"{onOff on}\n"

/-- Clears every locate LED. Follows `commands/locate:29-34`. -/
def runLocateReset (args : BusArgs) : Step Unit := do
  let driver ← openDriver args
  onDriver Driver.resetLocate driver
  Task.announce .info s!"{driver.label}: all locate LEDs off"

/-- Tells a controller whether the host has power. Follows `commands/power:7-16`. -/
def runPower (args : BusArgs) (on : Bool) : Step Unit := do
  let driver ← openDriver args
  onDriver (Driver.setHostPower on) driver
  Task.announce .info s!"{driver.label}: host power state set to {onOff on}"

end Backplane.Command

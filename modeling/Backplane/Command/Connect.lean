import Backplane.Command.Basic
import Backplane.Command.Error
import Backplane.Driver.Detect
import Backplane.Linux.Path
import Backplane.Text.Column

/-!
# From a bus argument to a driver

A bus argument that starts with `dummy` selects a simulated controller, any other one a target on
a system bus.
-/
namespace Backplane

/-- Why a bus argument selects nothing. -/
inductive TargetError where
  | unknownSimulated (bus : String)
  | busName (e : Linux.BusNameError)
  deriving DecidableEq, Repr

def TargetError.message : TargetError → String
  | .unknownSimulated bus => s!"Unknown dummy bus: {bus} (use dummy:v0 or dummy:v1)"
  | .busName e => e.message

namespace Target

/-- How simulated buses start. -/
def simulatedStart : String := "dummy"

/-- The simulated controller of a bus argument. Follows `bpmcu-dummy/lib:97-104`. -/
def simulated? (bus : String) : Option Protocol :=
  if bus = "dummy" ∨ bus = "dummy:v1" then some .v1
  else if bus = "dummy:v0" then some .v0
  else none

/-- The target of a bus argument and an address. Follows `backends:71-90`. -/
def ofArgument (bus : String) (address : UInt8) (pec : Bool) : Except TargetError Target :=
  if bus.startsWith simulatedStart then
    match simulated? bus with
    | some p => .ok (.simulated p)
    | none => .error (.unknownSimulated bus)
  else
    match Linux.busPath bus with
    | .ok path => .ok (.system ⟨path, address, pec⟩)
    | .error e => .error (.busName e)

/-- Kinds of buses: how an argument is written, and what it selects. Follows `backends:23-39`. -/
def kinds : List (String × String) := [
  ("<N> | /dev/i2c-<N>", "Linux i2c-dev bus"),
  ("dummy:v0 | dummy:v1", "Simulated MCU for testing")]

/-- The text that lists the kinds of buses. Follows `backends:93-103`. -/
def help : String :=
  let line (kind : String × String) := s!"  {Text.column 24 kind.1} {kind.2}\n"
  "Available buses:\n" ++ String.join (kinds.map line)

/-- Selects a target and gives it. Follows `backends:71-90`. -/
def select (bus : String) (address : UInt8) (pec : Bool) : Task (Except TargetError Target) := do
  match ofArgument bus address pec with
  | .error e => pure (.error e)
  | .ok target => do
    match target with
    | .system c => Task.announce .debug s!"Using Linux I2C bus {c.label}"
    | .simulated _ => pure ()
    Task.attach target
    pure (.ok target)

end Target

namespace Command

/-- Steps of a command, which can fail. -/
abbrev Step := ExceptT CommandError Task

/-- Selects the target of a command. Follows `commands/mod:24-26`. -/
def selectTarget (args : BusArgs) : Step Target := do
  match ← (Target.select args.bus args.address args.pec : Task _) with
  | .ok target => pure target
  | .error e => throw (.usage e.message)

/-- Selects the target of a command and gives it a driver. Follows `commands/mod:29-37`. -/
def openDriver (args : BusArgs) : Step Driver := do
  let target ← selectTarget args
  match ← (Driver.create target.label : Task _) with
  | .error e => throw (.controller e)
  | .ok driver => do
    Task.announce .debug s!"{driver.label}: speaking protocol {driver.protocol.name}"
    pure driver

/-- Runs an operation on a driver as a step of a command. -/
def onDriver {α : Type} (operation : DriverM.Try α) (driver : Driver) :
    Step α := do
  match ← (operation.run driver : Task _) with
  | (.ok value, _) => pure value
  | (.error e, _) => throw (.controller e)

end Command
end Backplane

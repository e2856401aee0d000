import Backplane.Driver.Basic

/-!
# Detecting a controller

A handle is given a driver according to the byte that answers the identification read. Nothing
else is sent to a device before it is identified.
-/
namespace Backplane.Driver

/-- A byte that may be missing, as the log shows it. -/
def identText : Option UInt8 → String
  | some byte => s!"Some({Text.hexByte byte})"
  | none => "None"

/-- Identifies the device behind a handle and gives it a driver. Follows
`bpmcu-core/mcu/factory:29-61`. -/
def probe (device : Device) : Task (Except Error Driver) := do
  if device.operational then
    let (answer, device) ← (Device.readByteData Protocol.identRegister).run device
    let ident ← match answer with
      | .ok byte => pure (some byte)
      | .error e => do
        Task.log .debug s!"{device.label}: identification read failed: {e.message}"
        pure none
    match ident.bind Protocol.ofIdent? with
    | some protocol =>
      Task.log .info s!"{device.label}: found MCU, protocol {protocol.name}"
      pure (.ok (ofDevice device protocol))
    | none =>
      Task.log .debug s!"{device.label}: no supported MCU (ident {identText ident})"
      pure (.error (.deviceAbsent device.label ident))
  else
    pure (.error (.notOperational device.label))

/-- Opens the bus of the target called `label` and gives it a driver. Follows
`bpmcu-core/mcu/factory:16-25`. -/
def create (label : String) : Task (Except Error Driver) := do
  match ← Task.connect with
  | .error e =>
    Task.log .error s!"{label}: failed to open bus: {e.message}"
    pure (.error (.notOperational label))
  | .ok () => probe (← Device.wrap label)

end Backplane.Driver

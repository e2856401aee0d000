import Backplane.Command.Connect
import Backplane.Update.Sequence

/-!
# The update command

Flashes an image. What an observer of the update is told is shown in two lines: the identity
before, and the outcome.
-/
namespace Backplane.Command

/-- The options of an update from the command line. Follows `commands/update:130-136`. -/
def updateOptions (erase : Bool) (expectedVersion : Option String) : UpdateOptions :=
  { erase := erase, expectedVersion := expectedVersion }

/-- What is shown of the progress of an update. Follows `commands/update:67-127`. -/
def progressText : Progress → String
  | .currentDevice identity =>
    s!"Current firmware: {identity.firmwareVersion} (board {identity.boardType}, protocol {identity.protocol.name})\n"
  | .complete report =>
    s!"Updated {report.before.firmwareVersion} -> {report.after.firmwareVersion} ({report.bytesWritten} bytes written, board {report.after.boardType}, protocol {report.after.protocol.name})\n"
  | _ => ""

/-- Flashes an image. Follows `commands/update:139-160`. -/
def runUpdate (args : BusArgs) (file : String) (erase : Bool) (expectedVersion : Option String) :
    Step Unit := do
  let target ← selectTarget args
  Task.announce .info s!"Flashing {file} to {target.label}"
  if erase then
    Task.announce .warn "Erasing before write; some V0 firmware erases the whole chip"
  match ← (Update.runFromFile target.label file (updateOptions erase expectedVersion) : Task _)
  with
  | .ok _ => pure ()
  | .error e => throw (.update e)

end Backplane.Command

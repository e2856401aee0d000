import Backplane.Command.Info
import Backplane.Command.Scan
import Backplane.Command.Status
import Backplane.Command.Switch

/-!
# Running commands

Every command as a task, and what its events show on standard output.
-/
namespace Backplane

namespace Command

/-- A command as steps that can fail. Follows `main:48-80`. -/
def steps : Command → Step Unit
  | .info bus => runInfo bus
  | .status bus true interval => runWatch bus interval
  | .status bus false _ => runStatus bus
  | .locate bus (.set channel on) => runLocateSet bus channel on
  | .locate bus (.get channel) => runLocateGet bus channel
  | .locate bus .reset => runLocateReset bus
  | .power bus on => runPower bus on
  | .update bus file erase expectedVersion => runUpdate bus file erase expectedVersion
  | .scan config dryRun => runScan config dryRun

/-- Runs a command. -/
def run (c : Command) : Task (Except CommandError Unit) := (steps c).run

/-- What an event shows on standard output. -/
def shownText : Event → String
  | .noted (.print text) => text
  | .noted (.progress p) => progressText p
  | _ => ""

/-- What events show on standard output. -/
def shown (events : List Event) : String := String.join (events.map shownText)

end Command
end Backplane

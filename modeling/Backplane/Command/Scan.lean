import Backplane.Command.Update
import Backplane.Driver.Operations
import Backplane.Scan.Config

/-!
# The scan command

Visits every address of every configured target. A controller is shown, and flashed if its target
has an image whose version it does not run yet. Nothing that fails at one address keeps the others
from being visited.
-/
namespace Backplane

/-- What happened at one address. Follows `commands/scan:180-191`. -/
inductive ScanOutcome where
  /-- Nothing answered where nothing had to. -/
  | skipped
  /-- A controller with nothing to flash. -/
  | found
  /-- A controller that already runs the configured version. -/
  | upToDate
  /-- A controller that was flashed. -/
  | updated
  /-- No controller where one was expected, or a failed update. -/
  | failed
  deriving DecidableEq, Repr

/-- The numbers of a scan. -/
structure ScanSummary where
  /-- All visits but the skipped ones. -/
  total : Nat
  updated : Nat
  upToDate : Nat
  failed : Nat
  deriving DecidableEq, Repr

namespace ScanSummary

def ofOutcomes (outcomes : List ScanOutcome) : ScanSummary where
  total := outcomes.length - outcomes.count .skipped
  updated := outcomes.count .updated
  upToDate := outcomes.count .upToDate
  failed := outcomes.count .failed

def text (s : ScanSummary) : String :=
  s!"Scan complete: {s.total} device(s), {s.updated} updated, {s.upToDate} up to date, {s.failed} failed\n"

end ScanSummary

namespace Scan

/-- One address of one target. -/
structure Visit where
  target : ScanTarget
  address : UInt8
  /-- A controller is expected there. -/
  expected : Bool
  deriving DecidableEq, Repr

/-- The visits of a scan, in order. Follows `commands/scan:253-261`. -/
def visits (targets : List ScanTarget) : List Visit :=
  targets.flatMap fun t => t.probeList.map fun (address, expected) => ⟨t, address, expected⟩

/-- The options of an update to a version, if one is configured. Follows `commands/scan:238-241`. -/
def updateOptions (version : Option String) : UpdateOptions :=
  { expectedVersion := version }

/-- Flashes the image of a target. Follows `commands/scan:238-249`. -/
def flash (t : ScanTarget) (label firmware : String) : Task ScanOutcome := do
  match ← Update.runFromFile label firmware (updateOptions t.version) with
  | .ok _ => pure .updated
  | .error e => do
    Task.announce .error s!"{t.name} [{label}]: firmware update failed: {e.message}"
    pure .failed

/-- Decides what an identified controller needs, and does it unless it is only asked for. Follows
`commands/scan:219-249`. -/
def settle (t : ScanTarget) (label runs : String) (dryRun : Bool) : Task ScanOutcome := do
  match t.firmware with
  | none => pure .found
  | some firmware =>
    if t.version = some runs then
      Task.print s!"{t.name} [{label}]: already running {runs}\n"
      pure .upToDate
    else if dryRun then
      Task.print s!"{t.name} [{label}]: would flash {firmware}\n"
      pure .found
    else flash t label firmware

/-- Identifies the controller at the selected address. Follows `commands/scan:203-217`. -/
def identify (v : Visit) (label : String) (dryRun : Bool) : Task ScanOutcome := do
  match ← Driver.create label with
  | .error e =>
    if e.isAbsent && !v.expected then
      Task.announce .debug s!"{v.target.name}: nothing at {label}"
      pure .skipped
    else
      Task.announce .error s!"{v.target.name}: {e.message}"
      pure .failed
  | .ok driver => do
    let (identity, _) ← Driver.deviceInfo.run driver
    Task.print s!"{v.target.name} [{label}]: firmware {identity.firmwareVersion}, board {identity.boardType}, protocol {identity.protocol.name}\n"
    settle v.target label identity.firmwareVersion dryRun

/-- Visits one address. Follows `commands/scan:193-250`. -/
def visit (dryRun : Bool) (v : Visit) : Task ScanOutcome := do
  match ← Target.select v.target.bus v.address false with
  | .error e =>
    Task.announce .error s!"{v.target.name}: {e.message}"
    pure .failed
  | .ok target => identify v target.label dryRun

/-- Makes visits one after the other. -/
def visitAll (dryRun : Bool) : List Visit → Task (List ScanOutcome)
  | [] => pure []
  | v :: rest => do
    let outcome ← visit dryRun v
    let outcomes ← visitAll dryRun rest
    pure (outcome :: outcomes)

/-- Visits every address of some targets. Follows `commands/scan:253-261`. -/
def run (targets : List ScanTarget) (dryRun : Bool) : Task (List ScanOutcome) :=
  visitAll dryRun (visits targets)

end Scan

namespace Command

/-- The text of a file. Follows `commands/scan:103-106`. -/
def readText (path : String) : Task (Except IoError String) := do
  match ← Task.readFile path with
  | .error e => pure (.error e)
  | .ok .directory => pure (.error (.os Errno.isDirectory))
  | .ok (.file bytes) =>
    match String.fromUTF8? ⟨bytes.toArray⟩ with
    | some text => pure (.ok text)
    | none => pure (.error (.other "stream did not contain valid UTF-8"))

/-- Reads a scan configuration; its images are looked for in the directory it is in. Follows
`commands/scan:102-112`. -/
def loadScan (path : String) : Step (List ScanTarget) := do
  match ← (readText path : Task _) with
  | .error e => throw (.config path e)
  | .ok text =>
    match ScanConfig.parse ((Text.parentPath? path).getD ".") text with
    | .error e => throw (.configParse path e.message)
    | .ok targets => pure targets

/-- Scans what a configuration lists. Follows `commands/scan:264-289`. -/
def runScan (path : String) (dryRun : Bool) : Step Unit := do
  let targets ← loadScan path
  Task.announce .info s!"Loaded {targets.length} scan target(s) from {path}"
  let outcomes ← (Scan.run targets dryRun : Task _)
  let summary := ScanSummary.ofOutcomes outcomes
  Task.print summary.text
  if summary.failed > 0 then throw (.scanFailed summary.failed summary.total)

end Command
end Backplane

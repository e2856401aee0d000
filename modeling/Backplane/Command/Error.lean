import Backplane.Error

/-!
# Failures of commands

A command fails with a text and an exit code. The codes tell apart a failed update, a missing
controller, one that did not come back, and one that came back with another version.
-/
namespace Backplane

/-- Follows `error:18-48`. -/
inductive CommandError where
  /-- A command on a controller failed. -/
  | controller (e : Error)
  /-- A firmware update failed. -/
  | update (e : Error)
  /-- The arguments make no sense. -/
  | usage (reason : String)
  /-- The scan configuration could not be read. -/
  | config (path : String) (source : IoError)
  /-- The scan configuration is not valid. -/
  | configParse (path : String) (reason : String)
  | scanFailed (failed total : Nat)
  deriving DecidableEq, Repr

namespace CommandError

/-- The name of the cause. -/
def kind : CommandError → String
  | .controller _ => "Mcu"
  | .update _ => "Update"
  | .usage _ => "Usage"
  | .config _ _ => "Config"
  | .configParse _ _ => "ConfigParse"
  | .scanFailed _ _ => "ScanFailed"

def message : CommandError → String
  | .controller e => e.message
  | .update e => s!"firmware update failed: {e.message}"
  | .usage reason => reason
  | .config path source => s!"failed to read config {path}: {source.message}"
  | .configParse path reason => s!"invalid config {path}: {reason}"
  | .scanFailed failed total => s!"{failed} of {total} device(s) failed"

/-- A firmware update failed. Follows `error:9`. -/
def exitUpdateFailed : UInt8 := 10

/-- No controller answered. Follows `error:11`. -/
def exitAbsent : UInt8 := 11

/-- The controller did not come back. Follows `error:13`. -/
def exitNoReturn : UInt8 := 12

/-- The controller came back with another version. Follows `error:15`. -/
def exitVersionMismatch : UInt8 := 13

/-- The exit code of a failed update. Follows `error:63-74`. -/
def updateExitCode : FailureClass → UInt8
  | .mcuAbsent => exitAbsent
  | .deviceDidNotReturn => exitNoReturn
  | .versionMismatch => exitVersionMismatch
  | .flashWriteFailed => exitUpdateFailed
  | .communication => exitUpdateFailed
  | .invalidImage => exitUpdateFailed
  | .deviceInfoUnavailable => exitUpdateFailed
  | .unsupported => 1
  | .usage => 1

/-- Follows `error:52-60`. -/
def exitCode : CommandError → UInt8
  | .controller e => if e.isAbsent then exitAbsent else 1
  | .update e => updateExitCode e.failureClass
  | .usage _ => 1
  | .config _ _ => 1
  | .configParse _ _ => 1
  | .scanFailed _ _ => exitUpdateFailed

end CommandError
end Backplane

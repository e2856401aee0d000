import Backplane.Error

/-!
# Stages of an update and what an observer is told

An update walks through its stages from `idle` to `done` or `failed`; an observer is told of every
stage entered and of the progress within it.
-/
namespace Backplane

/-- A stage of an update. Follows `bpmcu-core/update/mod:53-62`. -/
inductive UpdateState where
  | idle
  | erasing
  | writing
  | rebooting
  | awaitingPing
  | reidentifying
  | done
  | failed
  deriving DecidableEq, Repr

def UpdateState.name : UpdateState → String
  | .idle => "idle"
  | .erasing => "erasing"
  | .writing => "writing"
  | .rebooting => "rebooting"
  | .awaitingPing => "waiting for device"
  | .reidentifying => "re-identifying"
  | .done => "done"
  | .failed => "failed"

/-- The outcome of a successful update. Follows `bpmcu-core/update/mod:187-196`. -/
structure UpdateReport where
  before : DeviceInfo
  after : DeviceInfo
  bytesWritten : Nat
  /-- The number of the first ping that was answered. -/
  pingAttempts : UInt32
  deriving DecidableEq, Repr

/-- What an observer of an update is told. Follows `bpmcu-core/update/mod:153-171`. -/
inductive Progress where
  /-- A stage was entered. -/
  | entered (state : UpdateState)
  /-- The identity of the device before flashing. -/
  | currentDevice (info : DeviceInfo)
  /-- Writing starts on an image of this size. -/
  | writing (total : Nat)
  /-- This many bytes are written and verified. -/
  | written (bytes : Nat)
  | pingFailed (attempt attempts : UInt32)
  /-- The update is confirmed. -/
  | complete (report : UpdateReport)
  deriving DecidableEq, Repr

end Backplane

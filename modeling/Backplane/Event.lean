import Backplane.Linux.Call
import Backplane.Log
import Backplane.Update.Progress

/-!
# Events

What a run leaves behind, in order: the attempts on the bus with their replies, the calls into the
kernel, and the notes of the program itself.
-/
namespace Backplane

/-- What a program says about itself while it runs. -/
inductive Note where
  | log (line : LogLine)
  | progress (progress : Progress)
  /-- Text for standard output. -/
  | print (text : String)
  deriving DecidableEq

inductive Event where
  /-- A bus handle was opened, or could not be. -/
  | connected (result : Except BusError Unit)
  | attempted (request : Request) (reply : Reply request)
  /-- A delay of some microseconds was requested of the bus. -/
  | delayed (us : UInt32)
  | called (call : Linux.Call) (failure : Option Int)
  | noted (note : Note)

/-- The log line of an event. -/
def Event.logLine? : Event → Option LogLine
  | .noted (.log line) => some line
  | _ => none

/-- What an event tells an observer of an update. -/
def Event.progress? : Event → Option Progress
  | .noted (.progress p) => some p
  | _ => none

end Backplane

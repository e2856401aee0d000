import Backplane.Dialogue
import Backplane.Event
import Backplane.Linux.Config

/-!
# Tasks

A task is a dialogue with the world outside: it selects a bus, opens it, makes attempts and delays
on it, reads files and takes notes. Drivers, updates and commands are tasks, so each runs against
any bus that can answer, and what it may do on every bus can be read off it.
-/
namespace Backplane

/-- A controller to talk to. -/
inductive Target where
  /-- A fresh simulated controller of one generation, with drives in channels 0 and 3. -/
  | simulated (protocol : Protocol)
  | system (config : Linux.Config)
  deriving DecidableEq, Repr

/-- The label of a target in log lines and errors. -/
def Target.label : Target → String
  | .simulated p => s!"dummy:{p.name}"
  | .system c => c.label

/-- What is found under a path. -/
inductive FileContent where
  | file (bytes : List UInt8)
  | directory
  deriving DecidableEq, Repr

/-- What a task can ask for. -/
inductive Action where
  /-- Later requests go to this target. -/
  | attach (target : Target)
  /-- Opens a new handle on the target. -/
  | connect
  | attempt (request : Request)
  /-- Waits on the bus for some microseconds. -/
  | delay (us : UInt32)
  /-- Waits without the bus for some milliseconds. -/
  | sleep (ms : Nat)
  | readFile (path : String)
  | note (note : Note)

/-- What an action is answered with. -/
@[reducible]
def Action.Answer : Action → Type
  | .attach _ => Unit
  | .connect => Except BusError Unit
  | .attempt r => Reply r
  | .delay _ => Unit
  | .sleep _ => Unit
  | .readFile _ => Except IoError FileContent
  | .note _ => Unit

/-- A dialogue with the world outside. -/
abbrev Task := Dialogue Action.Answer

namespace Task

def attach (target : Target) : Task Unit := .ask (Action.attach target) .done

def connect : Task (Except BusError Unit) := .ask Action.connect .done

def attempt (r : Request) : Task (Reply r) := .ask (Action.attempt r) .done

def delay (us : UInt32) : Task Unit := .ask (Action.delay us) .done

def sleep (ms : Nat) : Task Unit := .ask (Action.sleep ms) .done

def readFile (path : String) : Task (Except IoError FileContent) :=
  .ask (Action.readFile path) .done

/-- A log line of the drivers and buses. -/
def log (level : Level) (text : String) : Task Unit :=
  .ask (Action.note (.log ⟨.library, level, text⟩)) .done

/-- A log line of the commands. -/
def announce (level : Level) (text : String) : Task Unit :=
  .ask (Action.note (.log ⟨.command, level, text⟩)) .done

def report (p : Progress) : Task Unit := .ask (Action.note (.progress p)) .done

def print (text : String) : Task Unit := .ask (Action.note (.print text)) .done

end Task
end Backplane

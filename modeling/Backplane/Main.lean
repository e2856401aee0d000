import Backplane.Linux.Adapter
import Backplane.Program
import Backplane.Simulator.Bus

/-!
# The tool

The outer layer of the program: files are those of the system, a simulated controller lives in
memory, and what a task notes is shown at once. A device file can be opened, but no requests are
made on it here, so selecting a target on it fails.
-/
namespace Backplane.Terminal

/-- What requests go to. -/
inductive Attached where
  | nothing
  | simulated (label : String) (controller : Simulator)
  | system (config : Linux.Config)

/-- A failure of the system. -/
def failure : IO.Error → IoError
  | .alreadyExists _ code _ => .os code.toNat
  | .otherError code _ => .os code.toNat
  | .resourceBusy code _ => .os code.toNat
  | .resourceVanished code _ => .os code.toNat
  | .unsupportedOperation code _ => .os code.toNat
  | .hardwareFault code _ => .os code.toNat
  | .unsatisfiedConstraints code _ => .os code.toNat
  | .illegalOperation code _ => .os code.toNat
  | .protocolError code _ => .os code.toNat
  | .timeExpired code _ => .os code.toNat
  | .interrupted _ code _ => .os code.toNat
  | .noFileOrDirectory _ code _ => .os code.toNat
  | .invalidArgument _ code _ => .os code.toNat
  | .permissionDenied _ code _ => .os code.toNat
  | .resourceExhausted _ code _ => .os code.toNat
  | .inappropriateType _ code _ => .os code.toNat
  | .noSuchThing _ code _ => .os code.toNat
  | .unexpectedEof => .other "unexpected end of file"
  | .userError reason => .other reason

/-- What is found under a path. -/
def readFile (path : String) : IO (Except IoError FileContent) := do
  try
    let bytes ← IO.FS.readBinFile path
    return .ok (.file bytes.toList)
  catch e =>
    if failure e = .os Errno.isDirectory then return .ok .directory
    else return .error (failure e)

/-- Opens a device file. -/
def openDevice (path : String) : IO (Except IoError Unit) := do
  try
    let _ ← IO.FS.Handle.mk path .readWrite
    return .ok ()
  catch e => return .error (failure e)

/-- A kernel that has been asked to open a device file, and takes no requests on it. -/
def kernelAnswer : Linux.Answering (Except IoError Unit)
  | .openDevice _, opened => (opened, opened)
  | .selectAddress _, opened => (.error Errno.notDeviceRequest, opened)
  | .setPec _, opened => (.error Errno.notDeviceRequest, opened)
  | .functionality, opened => (.error Errno.notDeviceRequest, opened)
  | .smbus _ _ _ _, opened => (.error Errno.notDeviceRequest, opened)
  | .transfer _, opened => ((.error Errno.notDeviceRequest, []), opened)

/-- Shows what an event is about, if it is for anyone to see. -/
def showEvent (e : Event) : IO Unit := do
  match e.logLine? with
  | some l =>
    if l.level.shownAt Program.shownLevel then IO.eprint (Program.logText l)
  | none => IO.print (Command.shownText e)

/-- Passes on what a simulated controller serves. -/
def fromSimulated {α : Type} (label : String) (served : Served α Simulator) : IO (α × Attached) := do
  served.events.forM showEvent
  return (served.value, .simulated label served.next)

/-- Answers one action. -/
def act : (a : Action) → Attached → IO (a.Answer × Attached)
  | .attach (.simulated p), _ =>
    return ((), .simulated (Target.simulated p).label (.start (.equipped p) {}))
  | .attach (.system config), _ => return ((), .system config)
  | .connect, .simulated label s => fromSimulated label ((Simulator.bus label).connect s)
  | .connect, .system config => do
    let served := (Linux.bus kernelAnswer config).connect (← openDevice config.device)
    served.events.forM showEvent
    return (served.value, .system config)
  | .connect, .nothing => return (.error (.os Errno.noDevice), .nothing)
  | .attempt r, .simulated label s => fromSimulated label ((Simulator.bus label).attempt r s)
  | .attempt _, attached => return (.fail (.os Errno.noDevice), attached)
  | .delay us, .simulated label s => fromSimulated label ((Simulator.bus label).delay us s)
  | .delay _, attached => return ((), attached)
  | .sleep ms, attached => do
    IO.sleep (.ofNat ms)
    return ((), attached)
  | .readFile path, attached => return (← readFile path, attached)
  | .note note, attached => do
    showEvent (.noted note)
    return ((), attached)

/-- Runs a task. -/
def perform {α : Type} : Task α → Attached → IO α
  | .done value, _ => return value
  | .ask action next, attached => do
    let (answer, attached) ← act action attached
    perform (next answer) attached

/-- Runs the tool and gives its exit code. -/
def run (args : List String) : IO UInt8 := do
  match CommandLine.parse args with
  | .error r =>
    let result := Program.refused r
    IO.print result.stdout
    IO.eprint result.stderr
    return result.exit
  | .ok parsed =>
    let outcome ← perform parsed.command.run .nothing
    IO.eprint (Program.errorOutput [] outcome)
    return Program.exitCode outcome

end Backplane.Terminal

def main (args : List String) : IO UInt32 := do
  return (← Backplane.Terminal.run args).toUInt32

import Backplane.Command.Basic
import Backplane.CommandLine.Refusal

/-!
# What was given

The arguments taken in so far, and the command they make up once all that must be given is there.
-/
namespace Backplane.CommandLine

structure Given where
  /-- All arguments taken in. -/
  seen : List Argument := []
  /-- How often more log lines were asked for. -/
  verbose : Option Nat := none
  bus : Option String := none
  address : Option UInt8 := none
  interval : Option Nat := none
  file : Option String := none
  expectedVersion : Option String := none
  config : Option String := none
  channel : Option Nat := none
  state : Option Bool := none
  deriving DecidableEq, Repr

namespace Given

def has (g : Given) (a : Argument) : Bool := g.seen.contains a

/-- Adds an argument that can be given once. -/
def see (g : Given) (a : Argument) : Except Refusal Given :=
  if g.has a then .error .conflict else .ok { g with seen := a :: g.seen }

/-- A path: the empty text is none. -/
def readPath (text : String) : Except Refusal String :=
  if text.isEmpty then .error .invalidValue else .ok text

/-- Takes in an argument with its value. -/
def put (g : Given) (v : Valued) (text : String) : Except Refusal Given := do
  let g ← g.see (.valued v)
  match v with
  | .bus => pure { g with bus := some text }
  | .address =>
    let address ← (parseAddress text).mapError .unreadableValue
    pure { g with address := some address }
  | .interval =>
    let interval ← (parseInterval text).mapError .unreadableValue
    pure { g with interval := some interval }
  | .file => pure { g with file := some (← readPath text) }
  | .expectedVersion => pure { g with expectedVersion := some text }
  | .config => pure { g with config := some (← readPath text) }
  | .channel =>
    let channel ← (parseChannel text).mapError .unreadableValue
    pure { g with channel := some channel }
  | .state =>
    match parseSwitch? text with
    | some on => pure { g with state := some on }
    | none => throw .invalidValue

/-- The largest count of a flag that counts. -/
def countMax : Nat := 255

/-- Takes in a flag. -/
def mark (g : Given) (scope : Scope) : Flag → Except Refusal Given
  | .help => .error (.help scope)
  | .version => .error .version
  | .verbose => .ok { g with
      seen := .flag .verbose :: g.seen
      verbose := some (min (g.verbose.getD 0 + 1) countMax) }
  | f => g.see (.flag f)

/-- What was given in a scope and in one behind it. Where both ask for more log lines, the inner
one decides. -/
def merge (outer inner : Given) : Given where
  seen := outer.seen ++ inner.seen
  verbose := inner.verbose.or outer.verbose
  bus := inner.bus.or outer.bus
  address := inner.address.or outer.address
  interval := inner.interval.or outer.interval
  file := inner.file.or outer.file
  expectedVersion := inner.expectedVersion.or outer.expectedVersion
  config := inner.config.or outer.config
  channel := inner.channel.or outer.channel
  state := inner.state.or outer.state

/-- The address that is meant if none is given. Follows `cli:49`. -/
def defaultAddress : UInt8 := 0x2A

/-- The milliseconds between polls if they are not given. Follows `cli:75`. -/
def defaultInterval : Nat := 1000

/-- The controller that is meant. Follows `cli:43-55`. -/
def busArgs? (g : Given) : Option BusArgs :=
  g.bus.map fun bus => ⟨bus, g.address.getD defaultAddress, g.has (.flag .pec)⟩

/-- The command that was given, in the scope where the command line ended. -/
def command? (g : Given) : Scope → Option Command
  | .top => none
  | .locate => none
  | .info => do pure (.info (← g.busArgs?))
  | .status => do
    pure (.status (← g.busArgs?) (g.has (.flag .watch)) (g.interval.getD defaultInterval))
  | .locateSet => do pure (.locate (← g.busArgs?) (.set (← g.channel) (← g.state)))
  | .locateGet => do pure (.locate (← g.busArgs?) (.get (← g.channel)))
  | .locateReset => do pure (.locate (← g.busArgs?) .reset)
  | .power => do pure (.power (← g.busArgs?) (← g.state))
  | .update => do
    pure (.update (← g.busArgs?) (← g.file) (g.has (.flag .erase)) g.expectedVersion)
  | .scan => do pure (.scan (← g.config) (g.has (.flag .dryRun)))

end Given
end Backplane.CommandLine

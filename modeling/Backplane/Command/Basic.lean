/-!
# Commands

What the tool can be told to do.
-/
namespace Backplane

/-- The controller a command is about. Follows `cli:43-55`. -/
structure BusArgs where
  /-- A bus by number or path, or a simulated one. -/
  bus : String
  address : UInt8
  /-- Error checking on transfers. -/
  pec : Bool
  deriving DecidableEq, Repr

/-- Follows `cli:129-150`. -/
inductive LocateAction where
  | set (channel : Nat) (on : Bool)
  | get (channel : Nat)
  | reset
  deriving DecidableEq, Repr

/-- Follows `cli:58-126`. -/
inductive Command where
  | info (bus : BusArgs)
  /-- The state of every channel, once or whenever it changes. -/
  | status (bus : BusArgs) (watch : Bool) (interval : Nat)
  | locate (bus : BusArgs) (action : LocateAction)
  | power (bus : BusArgs) (on : Bool)
  | update (bus : BusArgs) (file : String) (erase : Bool) (expectedVersion : Option String)
  | scan (config : String) (dryRun : Bool)
  deriving DecidableEq, Repr

namespace Command

/-- The names of the commands, in the order they are listed. -/
def names : List String := ["info", "status", "locate", "power", "update", "scan"]

def name : Command → String
  | .info _ => "info"
  | .status _ _ _ => "status"
  | .locate _ _ => "locate"
  | .power _ _ => "power"
  | .update _ _ _ _ => "update"
  | .scan _ _ => "scan"

/-- The controller a command is about, if it is about one. -/
def bus? : Command → Option BusArgs
  | .info bus => some bus
  | .status bus _ _ => some bus
  | .locate bus _ => some bus
  | .power bus _ => some bus
  | .update bus _ _ _ => some bus
  | .scan _ _ => none

end Command

/-- How a switch is written. -/
def onOff (on : Bool) : String := if on then "on" else "off"

end Backplane

import Backplane.Command.Connect
import Backplane.Driver.Channels
import Backplane.Text.Column

/-!
# The status command

Prints the state of every channel as a table, once or whenever it changes.
-/
namespace Backplane.Command
open Text

/-- Follows `commands/status:12-18`. -/
def yesNo (value : Bool) : String := if value then "yes" else "no"

/-- A row of the table. -/
def tableRow (channel present failed type locate : String) : String :=
  s!"{column 8 channel} {column 8 present} {column 7 failed} {column 10 type} {locate}\n"

/-- The locate LED in the table; a dash where it can not be read. -/
def locateCell : Option Bool → String
  | some on => onOff on
  | none => "-"

/-- The row of a channel. -/
def stateRow (s : ChannelState) : String :=
  tableRow (toString s.index) (yesNo s.present) (yesNo s.failed) s.driveType.name
    (locateCell s.locate)

/-- The table of some channels. Follows `commands/status:21-42`. -/
def stateTable (states : List ChannelState) : String :=
  tableRow "Channel" "Present" "Failed" "Type" "Locate" ++ String.join (states.map stateRow)

/-- Shows the state of every channel. Follows `commands/status:45-50`. -/
def runStatus (args : BusArgs) : Step Unit := do
  let driver ← openDriver args
  let states ← onDriver Driver.channelStates driver
  Task.print (stateTable states)

/-- Polls `polls` times and prints the table whenever the state has changed; a failed poll ends it.
Follows `commands/status:63-69`. -/
def watchFrom (interval : Nat) : (polls : Nat) → ChangeCache → Driver → Step Unit
  | 0, _, _ => pure ()
  | polls + 1, cache, driver => do
    match ← (Driver.poll cache false driver : Task _) with
    | ((_, .error e), _) => throw (.controller e)
    | ((cache, .ok states), driver) => do
      match states with
      | some states => do
        Task.print "\n"
        Task.print (stateTable states)
      | none => pure ()
      Task.sleep interval
      watchFrom interval polls cache driver

/-- More polls than a watch ever makes. -/
def watchPolls : Nat := UInt64.size

/-- Shows the state of every channel whenever it changes, until a poll fails. Follows
`commands/status:53-70`. -/
def runWatch (args : BusArgs) (interval : Nat) : Step Unit := do
  let driver ← openDriver args
  let interval := max interval 1
  Task.announce .info s!"{driver.label}: watching drive state every {interval} ms"
  watchFrom interval watchPolls .empty driver

end Backplane.Command

import Backplane.Driver.Operations

/-!
# Channel states and polling

The state of a channel is put together from what the controller reports, and presence decides
where presence and type disagree. Polling looks for a change of the masks first and reads the full
state only if there is one.
-/
namespace Backplane.Driver

/-- A value that is missing where the protocol cannot tell it. -/
def ifSupported {α : Type} (read : DriverM.Try α) : DriverM.Try (Option α) :=
  ExceptT.mk do
    match ← read.run with
    | .ok value => pure (.ok (some value))
    | .error (.unsupported _ _) => pure (.ok none)
    | .error e => pure (.error e)

/-- The type of a channel after presence was compared with the reported type. Follows
`bpmcu-core/mcu/state:67-87`. -/
def reconcile (index : Nat) (present : Bool) (reported : DriveType) : DriverM DriveType := do
  match present, reported with
  | true, .noDisk => do
    let label := (← get).label
    Task.log .warn
      s!"{label}: MCU data inconsistency on channel {index}: drive present but no type"
    pure .unknown
  | true, other => pure other
  | false, .noDisk => pure .noDisk
  | false, other => do
    let label := (← get).label
    Task.log .warn
      s!"{label}: MCU data inconsistency on channel {index}: type {other.name} but no drive present"
    pure .noDisk

/-- The state of a channel whose locate LED is known already. Follows `bpmcu-core/mcu/state:62-96`. -/
def buildState (index : Nat) (locate : Option Bool) : DriverM.Try ChannelState := do
  let present ← channelPresent index
  let failed ← channelFailed index
  let reported ← channelDriveType index
  let driveType ← reconcile index present reported
  pure ⟨index, present, failed, driveType, locate⟩

/-- The state of one channel. Follows `bpmcu-core/mcu/state:53-60`. -/
def channelState (index : Nat) : DriverM.Try ChannelState := do
  let locate ← ifSupported (channelLocate index)
  buildState index locate

/-- The state of every channel from the masks at hand. Follows `bpmcu-core/mcu/state:104-116`. -/
def collectStates : DriverM.Try (List ChannelState) := do
  let mask ← ifSupported locateMask
  (List.range channelCount).mapM fun index =>
    buildState index (mask.map fun m => hasChannel m index)

/-- The state of every channel in a poll cycle of its own. Follows `bpmcu-core/mcu/state:99-102`. -/
def channelStates : DriverM.Try (List ChannelState) := do
  refresh
  collectStates

/-- Looks for a change and returns the state of every channel if there is one, or if `force` says
so. The cache is returned beside the result, also when the search or a later read fails. Follows
`bpmcu-core/mcu/state:121-135`. -/
def poll (cache : ChangeCache) (force : Bool) :
    DriverM (ChangeCache × Except Error (Option (List ChannelState))) := do
  match ← hasStateChanged cache with
  | (cache, .error e) => pure (cache, .error e)
  | (cache, .ok changed) =>
    if changed || force then do
      if changed then
        let label := (← get).label
        Task.log .info s!"{label}: drive state changed"
      let states ← collectStates.run
      pure (cache, states.map some)
    else pure (cache, .ok none)

end Backplane.Driver

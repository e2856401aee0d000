import Backplane.Device
import Backplane.Drive
import Backplane.Text.Field

/-!
# Drivers

A driver is a device handle, the generation it speaks, the masks read in the present poll cycle,
and the flash offset of the next chunk. This module holds what both generations share: failures
of transactions, values that must be seen twice in a row, text fields, and the checks on channel
indices and chunks.
-/
namespace Backplane

/-- A driver for one controller. -/
structure Driver where
  device : Device
  protocol : Protocol
  /-- The presence mask, once read in this poll cycle. -/
  presence : Option UInt8
  /-- The failure mask, once read in this poll cycle. -/
  failures : Option UInt8
  /-- The word of drive types, once read in this poll cycle; the older generation has none. -/
  types : Option UInt16
  /-- Where the next flash chunk goes. -/
  flashOffset : UInt32
  deriving DecidableEq, Repr

/-- Operations on a driver. -/
abbrev DriverM := StateT Driver Task

/-- Operations on a driver that can fail. -/
abbrev DriverM.Try := ExceptT Error DriverM

/-- Steps on a driver and a cache of the caller that can fail. What was written to the cache stays there
when a later step fails. -/
abbrev DriverM.Caching := ExceptT Error (StateT ChangeCache DriverM)

/-- What an operation on a cache comes to, beside the cache as it is left. -/
abbrev DriverM.Cached (α : Type) := DriverM (ChangeCache × Except Error α)

/-- The result, with the cache where the operation succeeded. -/
def DriverM.Cached.run {α : Type} (operation : DriverM.Cached α) : DriverM (Except Error (α × ChangeCache)) := do
  let (cache, result) ← operation
  pure (result.map (·, cache))

instance : MonadLift DriverM.Try DriverM.Caching := ⟨fun operation => ExceptT.mk (liftM operation.run)⟩

namespace Driver

/-- Steps on a cache, and how they leave it. -/
def onCache {α : Type} (cache : ChangeCache) (steps : DriverM.Caching α) :
    DriverM (ChangeCache × Except Error α) := do
  let (result, after) ← steps.run.run cache
  pure (after, result)

/-- Puts a fingerprint into the cache, and tells whether it was another one. Follows
`bpmcu-core/mcu/state:20-24`. -/
def updateCache (f : UInt32) : DriverM.Caching Bool :=
  modifyGetThe ChangeCache fun cache => (cache.differs f, .note f)

/-- A driver that has read nothing yet. -/
def ofDevice (device : Device) (protocol : Protocol) : Driver :=
  ⟨device, protocol, none, none, none, 0⟩

/-- Follows `bpmcu-core/mcu/mod:266-268`. -/
def label (d : Driver) : String := d.device.label

/-- The driver as one line of text. Follows `bpmcu-core/mcu/mod:372-379`. -/
def describe (d : Driver) : String :=
  s!"McuDriver \x7b protocol: {d.protocol.name.toUpper}, device: {Text.quoted d.label} \x7d"

/-- An operation on the handle of a driver. -/
def onDevice {α : Type} (operation : DeviceM α) : DriverM α := fun d => do
  let (value, device) ← operation d.device
  pure (value, { d with device := device })

instance : MonadLift DeviceM DriverM := ⟨onDevice⟩

/-- A failed transaction: logged, and a failure of the operation `op`. Follows
`bpmcu-core/mcu/mod:180-197`. -/
def communicationFailure (op : Operation) (source : BusError) : DriverM Error := do
  let label := (← get).label
  Task.log .error s!"{label}: failed to {op.name}: {source.message} (result {source.code})"
  pure (.communication label op source)

/-- The result of transactions that make up the operation `op`. -/
def communicate {α : Type} (op : Operation) (transactions : DeviceM.Try α) : DriverM.Try α := do
  match ← (onDevice transactions.run : DriverM _) with
  | .ok value => pure value
  | .error e => throw (← communicationFailure op e)

/-- Reads of a value that must be seen twice in a row. Follows `bpmcu-core/mcu/mod:42`. -/
def confirmAttempts : Nat := 5

/-- Reads on until a value equals the one before it, `left` times at most; then `settle` is run and
the last value stands. A failed read ends it at once. Follows `bpmcu-core/mcu/mod:161-176`. -/
def confirmFrom {ε α : Type} {m : Type → Type} [Monad m] [BEq α] (read : ExceptT ε m α)
    (settle : ExceptT ε m Unit) : Nat → α → ExceptT ε m α
  | 0, last => do
    settle
    pure last
  | left + 1, last => do
    let next ← read
    if next == last then pure next else confirmFrom read settle left next

/-- Reads until the same value comes twice in a row. Follows `bpmcu-core/mcu/mod:152-177`. -/
def confirm {ε α : Type} {m : Type → Type} [Monad m] [BEq α] (read : ExceptT ε m α)
    (settle : ExceptT ε m Unit) : ExceptT ε m α := do
  let first ← read
  confirmFrom read settle (confirmAttempts - 1) first

/-- Reads a register value until it comes twice in a row; `what` names it in the warning. Follows
`bpmcu-core/mcu/mod:152-177`. -/
def confirmed {α : Type} [BEq α] (what : String) (read : DeviceM.Try α) : DeviceM.Try α :=
  confirm read do
    let label := (← get).label
    Task.log .warn
      s!"{label}: {what} not confirmed after {confirmAttempts} reads, using last value"

/-- The text of a field; a replaced byte is logged. Follows `bpmcu-core/text:11-40`. -/
def fieldText (raw : List UInt8) : Task String := do
  let text := Text.fieldText raw
  if Text.fieldReplaced raw then
    Task.log .info s!"String contains non-printable characters: {Text.quoted text}"
  pure text

/-- A channel index must be below eight. Follows `bpmcu-core/mcu/mod:199-205`. -/
def checkChannel (index : Nat) : DriverM.Try Unit :=
  if index < channelCount then pure () else throw (.invalidChannel index)

/-- The longest flash chunk. Follows `bpmcu-core/mcu/mod:39`. -/
def chunkMax : Nat := 128

/-- A chunk must hold 1 to 128 bytes and start at a multiple of four: a shorter piece that leaves
the offset unaligned was the last of its image. Follows `bpmcu-core/mcu/mod:211-217`. -/
def checkChunk (offset : UInt32) (bytes : List UInt8) : DriverM.Try Unit :=
  if bytes.isEmpty || bytes.length > chunkMax || offset % 4 != 0 then
    throw (.invalidChunk bytes.length)
  else pure ()

/-- The meaning of a raw drive type; one without a meaning is logged. Follows
`bpmcu-core/mcu/mod:136-146`. -/
def driveTypeOf (index : Nat) (value : UInt8) : DriverM DriveType := do
  match DriveType.ofWire? value with
  | some t => pure t
  | none =>
    let label := (← get).label
    Task.log .warn s!"{label}: unexpected DISC_TYPE {value} on channel {index}"
    pure .unknown

/-- What was read back from flash at `offset` differs from what was written. -/
def verifyFailure {α : Type} (offset : UInt32) : DriverM.Try α := do
  let label := (← get).label
  Task.log .error s!"{label}: flash verify failed at 0x{Text.hexUpper 5 offset.toNat}"
  throw (.verifyFailed label offset)

end Driver
end Backplane

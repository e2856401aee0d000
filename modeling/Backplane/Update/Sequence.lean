import Backplane.Driver.Detect
import Backplane.Driver.Operations
import Backplane.Flash.Cursor
import Backplane.Image
import Backplane.Update.Options

/-!
# The update sequence

An update identifies the controller, writes the image chunk by chunk, reboots, waits until a ping
is answered and identifies the controller again, since the new firmware may speak the other
generation. A chunk that can not be written ends it with a reboot, so that the controller drops
the partial image. Every stage entered is logged and reported.
-/
namespace Backplane.Update

/-- Steps of an update, which remember the stage it is in. -/
abbrev UpdateM := StateT UpdateState Task

/-- Steps of an update that can fail. -/
abbrev UpdateM.Try := ExceptT Error UpdateM

/-- Enters a stage. Follows `bpmcu-core/update/mod:247-251`. -/
def enter (label : String) (next : UpdateState) : UpdateM Unit := do
  let now ← get
  Task.log .debug s!"{label}: update {now.name} -> {next.name}"
  set next
  Task.report (.entered next)

/-- An operation of a driver. -/
def drive {α : Type} (operation : DriverM.Try α) (driver : Driver) : UpdateM.Try (α × Driver) := do
  match ← (operation.run driver : Task _) with
  | (.ok value, driver) => pure (value, driver)
  | (.error e, _) => throw e

/-- Opens the target and gives it a driver. -/
def openDriver (label : String) : UpdateM.Try Driver := ExceptT.mk (Driver.create label : Task _)

/-- Ends a failed write: the controller is rebooted and the failure returned. Follows
`bpmcu-core/update/mod:271-279`. -/
def abandon {α : Type} (label : String) (offset : Nat) (failure : Error) (driver : Driver) :
    UpdateM.Try α := do
  Task.log .error
    s!"{label}: flashing failed at offset 0x{Text.hexUpper 5 offset}, rebooting MCU"
  match ← (Driver.reboot.run driver : Task _) with
  | (.ok (), _) => pure ()
  | (.error e, _) => Task.log .warn s!"{label}: recovery reboot failed: {e.message}"
  throw failure

/-- Writes the chunks from the cursor on and gives the number of bytes written. Follows
`bpmcu-core/update/mod:269-286`. -/
def writeFrom (label : String) (cursor : Flash.Cursor) (hsize : 0 < cursor.chunkSize)
    (driver : Driver) : UpdateM.Try (Nat × Driver) := do
  match hpending : cursor.pending with
  | none => do
    Task.log .info s!"{label}: {cursor.offset} bytes written"
    pure (cursor.offset, driver)
  | some chunk => do
    match ← ((Driver.writeChunk chunk).run driver : Task _) with
    | (.error e, driver) => abandon label cursor.offset e driver
    | (.ok (), driver) => do
      have := Flash.Cursor.length_rest_advance_lt hsize hpending
      Task.report (.written cursor.advance.offset)
      writeFrom label cursor.advance hsize driver
termination_by cursor.rest.length

/-- Erases the update area if told to, and writes the image. Follows `bpmcu-core/update/mod:253-287`. -/
def writeImage (label : String) (image : List UInt8) (options : UpdateOptions)
    (hsize : 0 < options.chunkSize) (driver : Driver) : UpdateM.Try (Nat × Driver) := do
  let driver ←
    if options.erase then do
      enter label .erasing
      let ((), driver) ← drive Driver.eraseFlash driver
      Task.delay options.eraseSettle
      pure driver
    else pure driver
  enter label .writing
  Task.report (.writing image.length)
  writeFrom label (.start image options.chunkSize) hsize driver

/-- Pings `left` times at most; gives the number of the ping that was answered. Follows
`bpmcu-core/update/mod:295-304`. -/
def pingFrom (label : String) (options : UpdateOptions) : Nat → Driver → UpdateM.Try UInt32
  | 0, _ => do
    Task.log .error s!"{label}: device did not come back after reboot"
    throw (.deviceDidNotReturn options.pingAttempts)
  | left + 1, driver => do
    let attempt := options.pingAttempts.toNat - left
    Task.delay options.pingInterval
    match ← (Driver.ping.run driver : Task _) with
    | (true, _) => do
      Task.log .info s!"{label}: device answered after {attempt} ping(s)"
      pure (.ofNat attempt)
    | (false, driver) => do
      Task.report (.pingFailed (.ofNat attempt) options.pingAttempts)
      pingFrom label options left driver

/-- Waits until the rebooted controller answers a ping. Follows `bpmcu-core/update/mod:289-305`. -/
def awaitDevice (label : String) (options : UpdateOptions) (driver : Driver) :
    UpdateM.Try UInt32 := do
  enter label .awaitingPing
  pingFrom label options options.pingAttempts.toNat driver

/-- Identifies the controller after its reboot and checks that it reports what it should. Follows
`bpmcu-core/update/mod:335-350`. -/
def reidentify (label : String) (options : UpdateOptions) : UpdateM.Try DeviceInfo := do
  enter label .reidentifying
  let driver ← openDriver label
  let (info, _) ← (Driver.deviceInfo.run driver : Task _)
  if info.isComplete then
    match options.expectedVersion with
    | none => pure info
    | some expected =>
      if expected = info.firmwareVersion then pure info
      else throw (.versionMismatch expected info.firmwareVersion)
  else do
    Task.log .error s!"{label}: can not read device information"
    throw .deviceInfoUnavailable

/-- The stages of an update up to its outcome. Follows `bpmcu-core/update/mod:316-366`. -/
def stages (label : String) (image : List UInt8) (options : UpdateOptions)
    (hsize : 0 < options.chunkSize) : UpdateM.Try UpdateReport := do
  let driver ← openDriver label
  let (before, driver) ← (Driver.deviceInfo.run driver : Task _)
  Task.log .info
    s!"{label}: current firmware '{before.firmwareVersion}', board '{before.boardType}', protocol {before.protocol.name}"
  Task.report (.currentDevice before)
  let (bytesWritten, driver) ← writeImage label image options hsize driver
  enter label .rebooting
  let ((), driver) ← drive Driver.reboot driver
  let pingAttempts ← awaitDevice label options driver
  let after ← reidentify label options
  Task.log .info
    s!"{label}: now running firmware '{after.firmwareVersion}', board '{after.boardType}', protocol {after.protocol.name}"
  pure ⟨before, after, bytesWritten, pingAttempts⟩

/-- Checks the sizes, then walks through the stages. Follows `bpmcu-core/update/mod:307-314`. -/
def sequence (label : String) (image : List UInt8) (options : UpdateOptions) :
    UpdateM.Try UpdateReport := do
  match checkImageSize image.length with
  | .error e => throw e
  | .ok () =>
    if h : IsChunkSize options.chunkSize then stages label image options h.1
    else throw (.invalidChunk options.chunkSize)

/-- Flashes an image to the target called `label`. Follows `bpmcu-core/update/mod:373-396`. -/
def run (label : String) (image : List UInt8) (options : UpdateOptions) :
    Task (Except Error UpdateReport) :=
  StateT.run' (σ := UpdateState) (do
    match ← (sequence label image options).run with
    | .ok report => do
      enter label .done
      Task.report (.complete report)
      pure (.ok report)
    | .error e => do
      enter label .failed
      pure (.error e)) .idle

/-- Flashes the image under a path to the target called `label`. Follows
`bpmcu-core/update/mod:402-415`. -/
def runFromFile (label path : String) (options : UpdateOptions) :
    Task (Except Error UpdateReport) := do
  match ← Image.openReadOnly path with
  | .error e => pure (.error (.image e))
  | .ok image => do
    Task.log .debug s!"mapped {path} ({image.length} bytes)"
    run label image options

end Backplane.Update

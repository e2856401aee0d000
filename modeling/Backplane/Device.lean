import Backplane.Action
import Backplane.ErrorStreak
import Backplane.Text.Quoted

/-!
# Device handles

A handle is one target on an opened bus. Opening it checks what the adapter can do; a handle that
fails the check refuses every operation and never touches the bus. Each operation repeats one
request while it fails, three times at most, and logs one line about the outcome. An operation
that reads into a buffer returns the buffer also when it fails, since an attempt may have
delivered bytes before failing.
-/
namespace Backplane

/-- A handle on one target. Follows `bpmcu-core/transport:72-77`. -/
structure Device where
  label : String
  /-- The adapter passed the capability check. -/
  operational : Bool
  streak : ErrorStreak
  deriving DecidableEq, Repr

/-- Operations on a handle. -/
abbrev DeviceM := StateT Device Task

/-- Operations on a handle that can fail. -/
abbrev DeviceM.Try := ExceptT BusError DeviceM

namespace Device

/-- Attempts per operation. Follows `bpmcu-core/transport:18`. -/
def attemptsMax : Nat := 3

/-- Wraps an opened bus and checks what its adapter can do. Follows `bpmcu-core/transport:81-106`. -/
def wrap (label : String) : Task Device := do
  let reply ← Task.attempt .functionality
  match reply.result with
  | .ok funcs =>
    if funcs.isSufficient then
      pure ⟨label, true, .none⟩
    else
      Task.log .error
        s!"{label}: I2C bus does not support required operations (funcs 0x{Text.hex 8 funcs.bits.toNat})"
      pure ⟨label, false, .none⟩
  | .error e =>
    Task.log .error s!"{label}: failed to query adapter functionality: {e.message}"
    pure ⟨label, false, .none⟩

/-- The handle as one line of text. Follows `bpmcu-core/transport:313-320`. -/
def describe (d : Device) : String :=
  s!"I2cDevice \x7b label: {Text.quoted d.label}, ok: {d.operational}, .. \x7d"

/-- Repeats a request while it fails, `again` more times at most. Follows
`bpmcu-core/transport:144-161`. -/
def retry (r : Request) : (again : Nat) → (buffer : List UInt8) →
    Task (Except BusError r.Value × List UInt8)
  | 0, buffer => do
    let reply ← Task.attempt r
    pure (reply.result, overlay buffer reply.data)
  | again + 1, buffer => do
    let reply ← Task.attempt r
    match reply.result with
    | .ok value => pure (.ok value, overlay buffer reply.data)
    | .error _ => retry r again (overlay buffer reply.data)

/-- The line about a transaction: the label, the outcome, and as much of the command byte and the
payloads as the streak leaves to be shown. Follows `bpmcu-core/transport:163-205`. -/
def logTransaction (command : Option UInt8) (sent received : Option (List UInt8))
    (failure : Option BusError) : DeviceM Unit := do
  let d ← get
  let (decision, streak) := d.streak.record failure.isSome
  set { d with streak := streak }
  let line := match failure with
    | none => s!"{d.label} <ok>"
    | some e => s!"{d.label} <FAILED ({e.code})!>"
  match decision with
  | .silent => pure ()
  | .summary =>
    Task.log .error
      s!"{line} ... (detected multiple errors, suppressing further log output)"
  | .full =>
    let line := match command with
      | none => line
      | some c => s!"{line} CMD: {Text.hexByte c}"
    let line := match sent with
      | none => line
      | some bytes => Text.pushPayload line "TX" bytes
    match failure with
    | some _ => Task.log .error line
    | none =>
      let line := match received with
        | none => line
        | some bytes => Text.pushPayload line "RX" bytes
      Task.log .debug line

/-- One operation: the request with its retries, then the line about it. `received` picks the
bytes that the line shows of what was read. -/
def transact (r : Request) (buffer : List UInt8) (command : Option UInt8)
    (sent : Option (List UInt8)) (received : r.Value → List UInt8 → Option (List UInt8)) :
    DeviceM (Except BusError r.Value × List UInt8) := do
  let d ← get
  let (result, buffer) ←
    if d.operational then
      (retry r (attemptsMax - 1) buffer : Task _)
    else do
      Task.log .debug s!"{d.label}: refusing I/O on non-operational handle"
      pure (.error .notOperational, buffer)
  match result with
  | .ok value => logTransaction command sent (received value buffer) none
  | .error e => logTransaction command sent none (some e)
  pure (result, buffer)

/-- An operation without a buffer. -/
def exchange (r : Request) (command : Option UInt8) (sent : Option (List UInt8))
    (received : r.Value → Option (List UInt8)) : DeviceM.Try r.Value :=
  ExceptT.mk do
    let (result, _) ← transact r [] command sent fun value _ => received value
    pure result

/-- The bytes of a word on the wire, the low byte first. -/
def wordBytes (word : UInt16) : List UInt8 := [word.toUInt8, (word >>> 8).toUInt8]

/-- Receives one byte. Follows `bpmcu-core/transport:208-213`. -/
def readByte : DeviceM.Try UInt8 :=
  exchange .readByte none none fun value => some [value]

/-- Sends one byte. Follows `bpmcu-core/transport:216-220`. -/
def writeByte (value : UInt8) : DeviceM.Try Unit :=
  exchange (.writeByte value) none (some [value]) fun _ => none

/-- Reads a byte from a register. Follows `bpmcu-core/transport:223-228`. -/
def readByteData (register : UInt8) : DeviceM.Try UInt8 :=
  exchange (.readByteData register) (some register) none fun value => some [value]

/-- Writes a byte to a register. Follows `bpmcu-core/transport:231-235`. -/
def writeByteData (register value : UInt8) : DeviceM.Try Unit :=
  exchange (.writeByteData register value) (some register) (some [value]) fun _ => none

/-- Reads a word from a register. Follows `bpmcu-core/transport:238-248`. -/
def readWordData (register : UInt8) : DeviceM.Try UInt16 :=
  exchange (.readWordData register) (some register) none fun value => some (wordBytes value)

/-- Writes a word to a register. Follows `bpmcu-core/transport:251-255`. -/
def writeWordData (register : UInt8) (value : UInt16) : DeviceM.Try Unit :=
  exchange (.writeWordData register value) (some register) (some (wordBytes value)) fun _ => none

/-- Reads a block from a register. A buffer longer than a block is refused before anything else; the
number returned is what the device sent, which may exceed the buffer. Follows
`bpmcu-core/transport:260-268`. -/
def readBlock (register : UInt8) (buffer : List UInt8) :
    DeviceM (Except BusError Nat × List UInt8) :=
  if buffer.length > blockMax then
    pure (.error (.blockTooLong buffer.length), buffer)
  else
    transact (.readBlock register buffer.length) buffer (some register) none
      fun count buffer => some (buffer.take count)

/-- Fills the buffer without a command byte. Follows `bpmcu-core/transport:271-275`. -/
def readRaw (buffer : List UInt8) : DeviceM (Except BusError Unit × List UInt8) :=
  transact (.transfer [.read buffer.length]) buffer none none fun _ buffer => some buffer

/-- Sends a command byte and fills the buffer in the same transfer. Follows
`bpmcu-core/transport:278-284`. -/
def readRawAt (command : UInt8) (buffer : List UInt8) :
    DeviceM (Except BusError Unit × List UInt8) :=
  transact (.transfer [.write [command], .read buffer.length]) buffer (some command) none
    fun _ buffer => some buffer

/-- Sends bytes without a command byte. Follows `bpmcu-core/transport:287-291`. -/
def writeRaw (bytes : List UInt8) : DeviceM.Try Unit :=
  exchange (.transfer [.write bytes]) none (some bytes) fun _ => none

/-- Sends a command byte and bytes as one message. Follows `bpmcu-core/transport:294-302`. -/
def writeRawAt (command : UInt8) (bytes : List UInt8) : DeviceM.Try Unit :=
  exchange (.transfer [.write (command :: bytes)]) (some command) (some bytes) fun _ => none

/-- Sends bytes and fills the buffer in the same transfer. Follows `bpmcu-core/transport:305-310`. -/
def readAfterWrite (bytes buffer : List UInt8) : DeviceM (Except BusError Unit × List UInt8) :=
  transact (.transfer [.write bytes, .read buffer.length]) buffer none (some bytes)
    fun _ buffer => some buffer

end Device
end Backplane

import Backplane.Driver.V0
import Backplane.Driver.V1
import Backplane.Simulator.Basic

/-!
# Frames of combined transfers

What a combined transfer means to a simulated controller. A frame that is not understood, or that
leaves the update area, is not acknowledged and changes nothing.
-/
namespace Backplane.Simulator

/-- The meaning of a combined transfer. -/
inductive Frame where
  /-- Read the version field. -/
  | version (length : Nat)
  | store (offset : UInt32) (bytes : List UInt8)
  | load (offset : UInt32) (length : Nat)
  /-- Set the place of the next flash data. -/
  | address (offset : UInt32) (length : Nat)
  deriving DecidableEq, Repr

/-- The frames of the older generation. Follows `bpmcu-dummy/sim:451-474`. -/
def frameV0? : List Message → Option Frame
  | [.write bytes] =>
    match Flash.parseHeader bytes with
    | some (opcode, offset, length) =>
      if opcode = V0.flashWriteCommand ∧ bytes.length = Flash.headerLength + length.toNat then
        some (.store offset (bytes.drop Flash.headerLength))
      else none
    | none => none
  | [.write bytes, .read n] =>
    if bytes = [V0.versionRegister] then some (.version n)
    else
      match Flash.parseHeader bytes with
      | some (opcode, offset, length) =>
        if opcode = V0.flashReadCommand ∧ length.toNat = n then some (.load offset n) else none
      | none => none
  | _ => none

/-- The frames of the newer generation; `address` is the place set before. Follows
`bpmcu-dummy/sim:476-501`. -/
def frameV1? (address : Option (UInt32 × Nat)) : List Message → Option Frame
  | [.write (command :: payload)] =>
    if command = V1.flashAddressCommand then
      (Flash.parseLocation payload).map fun (offset, length) => .address offset length.toNat
    else if command = V1.flashDataCommand then
      match address with
      | some (offset, length) =>
        if length = payload.length then some (.store offset payload) else none
      | none => none
    else none
  | [.write bytes, .read n] =>
    match address with
    | some (offset, length) =>
      if bytes = [V1.flashDataCommand] ∧ length = n then some (.load offset n) else none
    | none => none
  | _ => none

/-- The meaning of a combined transfer to a controller. Follows `bpmcu-dummy/sim:433-440`. -/
def frame? (s : Simulator) (messages : List Message) : Option Frame :=
  match s.config.protocol with
  | .v0 => frameV0? messages
  | .v1 => frameV1? s.flashAddress messages

/-- Whether a frame is acknowledged. Follows `bpmcu-dummy/sim:264-284`. -/
def accepts (s : Simulator) : Frame → Bool
  | .version _ => true
  | .store offset bytes =>
    s.faults.failChunk != some s.counters.flashChunks && offset.toNat + bytes.length ≤ imageMax
  | .load offset length => offset.toNat + length ≤ imageMax
  | .address _ _ => true

/-- The bytes of a text field: as many as asked for, filled up with zeros. Follows
`bpmcu-dummy/sim:296-302`. -/
def field (text : String) (length : Nat) : List UInt8 :=
  let bytes := text.toUTF8.toList.take length
  bytes ++ List.replicate (length - bytes.length) 0

/-- The bytes a frame is answered with. -/
def frameData (s : Simulator) : Frame → List UInt8
  | .version n => field s.config.firmwareVersion n
  | .load offset length => s.load offset length
  | .store _ _ => []
  | .address _ _ => []

/-- What a frame changes. -/
def frameEffect (s : Simulator) : Frame → Simulator
  | .version _ => s
  | .store offset bytes => s.store offset bytes
  | .load _ _ => s
  | .address offset length => { s with flashAddress := some (offset, length) }

end Backplane.Simulator

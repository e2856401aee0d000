import Backplane.Dialogue
import Backplane.Linux.Call

/-!
# Requests as kernel calls

Each bus request is one call on the open file; two requests that no call can express are refused
without one. Values travel in the first bytes of the union, the low byte first, and a block in the
bytes behind its length.
-/
namespace Backplane.Linux

/-- A dialogue with the kernel. -/
abbrev KernelTask := Dialogue Call.Answer

/-- One call. Follows `bpmcu-linux-i2c/device:197-213`. -/
def call (c : Call) : KernelTask c.Answer := .ask c .done

namespace Union

/-- The union with every byte zero. Follows `bpmcu-linux-i2c/device:58-62`. -/
def blank : Union := .replicate _ 0

/-- The union that carries one byte. -/
def ofByte (b : UInt8) : Union := blank.set 0 b

/-- The union that carries a word, the low byte first. -/
def ofWord (w : UInt16) : Union := (blank.set 0 w.toUInt8).set 1 (w >>> 8).toUInt8

/-- The byte a union carries. Follows `bpmcu-linux-i2c/device:64-66`. -/
def byte (u : Union) : UInt8 := u[0]

/-- The word a union carries. Follows `bpmcu-linux-i2c/device:68-70`. -/
def word (u : Union) : UInt16 := u[0].toUInt16 ||| (u[1].toUInt16 <<< 8)

/-- The block a union carries, cut to the number of bytes asked for. Follows
`bpmcu-linux-i2c/device:275-276`. -/
def block (u : Union) (length : Nat) : List UInt8 :=
  (u.toList.drop 1).take (min u[0].toNat length)

end Union

/-- The longest message of a transfer. Follows `bpmcu-linux-i2c/device:283`. -/
def messageMax : Nat := 65535

/-- A message bound to an address. Follows `bpmcu-linux-i2c/device:282-295`. -/
def kernelMessage (address : UInt8) (m : Message) : KernelMessage where
  address := address.toUInt16
  sent := match m with
    | .write bytes => some bytes
    | .read _ => none
  length := .ofNat m.length

/-- A result of a call as the result of a request. Follows `bpmcu-linux-i2c/device:210-212`. -/
def requestResult {α β : Type} (read : α → β) : Except Int α → Except BusError β
  | .ok value => .ok (read value)
  | .error errno => .error (.os (Errno.reported errno))

/-- The block that answers a request, or its failure. Follows `bpmcu-linux-i2c/device:258-278`. -/
def blockReply (command : UInt8) (length : Nat) :
    Except Int Union → Reply (.readBlock command length)
  | .ok u => ⟨.ok (u.block length).length, u.block length⟩
  | .error errno => .fail (.os (Errno.reported errno))

/-- Serves a request to the target at an address. Follows `bpmcu-linux-i2c/device:216-309`. -/
def serve (address : UInt8) : (r : Request) → KernelTask (Reply r)
  | .functionality => do
    let answer ← call .functionality
    pure ⟨requestResult (fun word => .ofBits word.toUInt32) answer, []⟩
  | .readByte => do
    let answer ← call (.smbus .read 0 .byte (some Union.blank))
    pure ⟨requestResult Union.byte answer, []⟩
  | .writeByte value => do
    let answer ← call (.smbus .write value .byte none)
    pure ⟨requestResult (fun _ => ()) answer, []⟩
  | .readByteData command => do
    let answer ← call (.smbus .read command .byteData (some Union.blank))
    pure ⟨requestResult Union.byte answer, []⟩
  | .writeByteData command value => do
    let answer ← call (.smbus .write command .byteData (some (Union.ofByte value)))
    pure ⟨requestResult (fun _ => ()) answer, []⟩
  | .readWordData command => do
    let answer ← call (.smbus .read command .wordData (some Union.blank))
    pure ⟨requestResult Union.word answer, []⟩
  | .writeWordData command value => do
    let answer ← call (.smbus .write command .wordData (some (Union.ofWord value)))
    pure ⟨requestResult (fun _ => ()) answer, []⟩
  | .readBlock command length =>
    if length > blockMax then pure (.fail (.blockTooLong length))
    else do
      let answer ← call (.smbus .read command .block (some (Union.ofByte (.ofNat length))))
      pure (blockReply command length answer)
  | .transfer messages =>
    if messages.any fun m => m.length > messageMax then pure (.fail (.os Errno.invalid))
    else do
      let (result, data) ← call (.transfer (messages.map (kernelMessage address)))
      pure ⟨requestResult (fun _ => ()) result, data⟩

end Backplane.Linux

import Backplane.Bus.Error
import Backplane.Bus.Functionality

/-!
# Bus requests and replies

One request is one attempt of one bus primitive. A reply says how the attempt ended and which
bytes it delivered: they go to the read buffers of the request in order, as many as fit, and a
byte beyond them keeps what it held (`overlay`, `scatter`). An attempt may deliver bytes and fail.
-/
namespace Backplane

/-- The longest payload of a block transfer. Follows `bpmcu-core/bus:13`. -/
def blockMax : Nat := 32

/-- One message of a combined transfer. Follows `bpmcu-core/bus:67-72`. -/
inductive Message where
  /-- Bytes sent to the device. -/
  | write (bytes : List UInt8)
  /-- A number of bytes read from the device. -/
  | read (length : Nat)
  deriving DecidableEq, Repr

namespace Message

/-- The number of bytes a message moves. -/
def length : Message → Nat
  | .write bytes => bytes.length
  | .read n => n

def isEmpty (m : Message) : Bool := m.length == 0

def isWrite : Message → Bool
  | .write _ => true
  | .read _ => false

end Message

/-- One attempt of one bus primitive. Follows `bpmcu-core/bus:93-125`. -/
inductive Request where
  | functionality
  | readByte
  | writeByte (value : UInt8)
  | readByteData (command : UInt8)
  | writeByteData (command value : UInt8)
  | readWordData (command : UInt8)
  | writeWordData (command : UInt8) (value : UInt16)
  | readBlock (command : UInt8) (length : Nat)
  | transfer (messages : List Message)
  deriving DecidableEq, Repr

/-- What a successful attempt returns besides the bytes it delivers: for a block the number of
bytes the device sent, which may differ from the number asked for. -/
@[reducible]
def Request.Value : Request → Type
  | .functionality => Functionality
  | .readByte => UInt8
  | .readByteData _ => UInt8
  | .readWordData _ => UInt16
  | .readBlock _ _ => Nat
  | .writeByte _ => Unit
  | .writeByteData _ _ => Unit
  | .writeWordData _ _ => Unit
  | .transfer _ => Unit

/-- How an attempt ended. -/
structure Reply (r : Request) where
  result : Except BusError r.Value
  /-- Bytes delivered to the read buffers, on success and on failure. -/
  data : List UInt8 := []

namespace Reply

/-- Success without delivered bytes. -/
def ok {r : Request} (value : r.Value) : Reply r := ⟨.ok value, []⟩

/-- Failure without delivered bytes. -/
def fail {r : Request} (e : BusError) : Reply r := ⟨.error e, []⟩

end Reply

/-- A buffer after `data` was delivered to it. -/
def overlay (buffer data : List UInt8) : List UInt8 :=
  data.take buffer.length ++ buffer.drop data.length

/-- Buffers after `data` was delivered to them in order. -/
def scatter : List (List UInt8) → List UInt8 → List (List UInt8)
  | [], _ => []
  | buffer :: rest, data => overlay buffer data :: scatter rest (data.drop buffer.length)

@[simp] theorem length_overlay (buffer data : List UInt8) :
    (overlay buffer data).length = buffer.length := by
  simp only [overlay, List.length_append, List.length_take, List.length_drop]; omega

end Backplane

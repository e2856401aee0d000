import Backplane.Errno

/-!
# Failures of one bus transaction

A transaction is refused by the system, refused by a handle that never passed its capability
check, or not expressible on the bus. Each failure has a text and a negative status code.
-/
namespace Backplane

/-- Follows `bpmcu-core/error:27-39`. -/
inductive BusError where
  /-- The system refused the transaction with this error number. -/
  | os (errno : Int)
  /-- The handle failed its capability check and never touches the bus. -/
  | notOperational
  /-- A block of this many bytes is longer than a block transfer can be. -/
  | blockTooLong (length : Nat)
  deriving DecidableEq, Repr

namespace BusError

def message : BusError → String
  | .os errno => s!"bus transaction failed: {(IoError.os errno).message}"
  | .notOperational => "bus handle is not operational"
  | .blockTooLong length => s!"transfer of {length} bytes exceeds the SMBus block limit"

/-- The name of the cause. -/
def kind : BusError → String
  | .os _ => "Os"
  | .notOperational => "NotOperational"
  | .blockTooLong _ => "BlockTooLong"

/-- The status code: the negated error number. Follows `bpmcu-core/error:43-49`. -/
def code : BusError → Int
  | .os errno => -errno
  | .notOperational => -Errno.noDevice
  | .blockTooLong _ => -Errno.invalid

/-- A failed system operation as a failed transaction. Follows `bpmcu-core/error:52-56`. -/
def ofIo (e : IoError) : BusError :=
  .os (e.errno?.getD Errno.io)

instance : ToString BusError := ⟨message⟩

end BusError
end Backplane

import Backplane.Driver.Basic

/-!
# Options of an update

What an update may be told, and the sizes it accepts.
-/
namespace Backplane

/-- The smallest image; anything shorter lacks a header. Follows `bpmcu-core/update/mod:30`. -/
def imageMin : Nat := 64

/-- The largest image: the size of the update area. Follows `bpmcu-core/update/mod:32`. -/
def imageMax : Nat := 131072

/-- Refuses an image that is too small or too large. Follows `bpmcu-core/update/mod:43-49`. -/
def checkImageSize (size : Nat) : Except Error Unit :=
  if imageMin ≤ size ∧ size ≤ imageMax then .ok () else .error (.invalidImageSize size)

/-- A chunk size is a multiple of four from 4 to 128. Follows `bpmcu-core/update/mod:143-149`. -/
def IsChunkSize (size : Nat) : Prop :=
  0 < size ∧ size ≤ Driver.chunkMax ∧ size % 4 = 0

instance (size : Nat) : Decidable (IsChunkSize size) := by
  unfold IsChunkSize; infer_instance

/-- Follows `bpmcu-core/update/mod:82-111`. -/
structure UpdateOptions where
  /-- Erase the update area before writing. Some firmware of the older generation erases the whole
  chip on that command, so it is off unless asked for. -/
  erase : Bool := false
  /-- The version the device must report afterwards. -/
  expectedVersion : Option String := none
  chunkSize : Nat := Driver.chunkMax
  pingAttempts : UInt32 := 20
  /-- Time before each ping, in microseconds. -/
  pingInterval : UInt32 := 1000000
  /-- Time after the erase command, in microseconds. -/
  eraseSettle : UInt32 := 2000000
  deriving DecidableEq, Repr

end Backplane

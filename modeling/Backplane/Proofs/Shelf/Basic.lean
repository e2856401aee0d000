import Backplane.Driver.Operations
import Backplane.Simulator.Basic

/-!
# Shelves

A backplane as its host sees it, whichever generation it speaks: eight channels, the power state of the
host, a flash memory and the place of the next chunk. Nothing of what goes over the wire is left, nor of
what a driver keeps in between.

* `Shelf.perform`: what is answered to a command, and what it changes.
* `Shelf.apply`: what changes on its own.
* `Shelf.view`: the shelf that a driver and a simulated controller make up.
-/
namespace Backplane

/-- A backplane with eight channels. -/
@[ext]
structure Shelf where
  presence : Fin channelCount → Bool
  failures : Fin channelCount → Bool
  /-- Raw types. -/
  types : Fin channelCount → Fin 4
  locate : Fin channelCount → Bool
  /-- What the host said of its power last. -/
  hostPower : Option Bool
  flash : Fin imageMax → UInt8
  /-- Where the next chunk goes. -/
  offset : Nat

namespace Shelf

/-- What a host asks for. -/
inductive Command where
  | channelPresent (index : Nat)
  | channelFailed (index : Nat)
  | channelDriveType (index : Nat)
  | setLocate (index : Nat) (on : Bool)
  | resetLocate
  | setHostPower (on : Bool)
  | eraseFlash
  | writeChunk (bytes : List UInt8)
  | reboot
  | ping
  | refresh
  deriving DecidableEq, Repr

/-- What it is answered. -/
inductive Response where
  | flag (value : Bool)
  | drive (type : DriveType)
  | done
  deriving DecidableEq, Repr

/-- The meaning of a raw type. -/
def driveType : Fin 4 → DriveType
  | 0 => .noDisk
  | 1 => .sataSas
  | 2 => .nvme
  | 3 => .unknown

/-- What is said of a channel, if there is one of this index. -/
def inChannel {α : Type} (index : Nat) (say : Fin channelCount → α) : Except Error α :=
  if h : index < channelCount then .ok (say ⟨index, h⟩) else .error (.invalidChannel index)

/-- Sets the locate LED of a channel; there is none of an index that is too large. -/
def withLocate (s : Shelf) (index : Nat) (on : Bool) : Shelf :=
  { s with locate := fun channel => if channel.val = index then on else s.locate channel }

/-- Bytes written over a memory from an offset on. -/
def patch (flash : Fin imageMax → UInt8) (offset : Nat) (bytes : List UInt8) : Fin imageMax → UInt8 :=
  fun i => if offset ≤ i then bytes[i - offset]?.getD (flash i) else flash i

/-- A chunk holds 1 to 128 bytes and starts at a multiple of four, and one that does not fit into flash
is not acknowledged. -/
def write (label : String) (s : Shelf) (bytes : List UInt8) : Except Error Unit × Shelf :=
  if bytes = [] ∨ 128 < bytes.length ∨ s.offset % 4 ≠ 0 then
    (.error (.invalidChunk bytes.length), s)
  else if s.offset + bytes.length ≤ imageMax then
    (.ok (), { s with flash := patch s.flash s.offset bytes, offset := s.offset + bytes.length })
  else
    (.error (.communication label .writeFlash (.os Errno.noAnswer)), s)

/-- Erases the flash memory. Writing starts over at its beginning. -/
def erase (s : Shelf) : Shelf := { s with flash := fun _ => 0xFF, offset := 0 }

/-- What a command is answered, and the shelf behind it. Errors carry the label of the device. -/
def perform (label : String) (s : Shelf) : Command → Except Error Response × Shelf
  | .channelPresent index => (inChannel index fun channel => .flag (s.presence channel), s)
  | .channelFailed index => (inChannel index fun channel => .flag (s.failures channel), s)
  | .channelDriveType index => (inChannel index fun channel => .drive (driveType (s.types channel)), s)
  | .setLocate index on => (inChannel index fun _ => .done, s.withLocate index on)
  | .resetLocate => (.ok .done, { s with locate := fun _ => false })
  | .setHostPower on => (.ok .done, { s with hostPower := some on })
  | .eraseFlash => (.ok .done, s.erase)
  | .writeChunk bytes => ((s.write label bytes).1.map fun _ => .done, (s.write label bytes).2)
  | .reboot => (.ok .done, s)
  | .ping => (.ok (.flag true), s)
  | .refresh => (.ok .done, s)

/-- What changes on its own. -/
inductive Change where
  /-- A drive of a raw type is seated in a channel, or the channel is emptied. -/
  | plugged (channel : Fin channelCount) (value : Option (Fin 4))
  /-- The drives that have failed are these. -/
  | failed (mask : UInt8)
  deriving DecidableEq, Repr

/-- The shelf behind a change. -/
def apply (s : Shelf) : Change → Shelf
  | .plugged channel value =>
    { s with
      presence := fun other => if other = channel then value.isSome else s.presence other
      types := fun other => if other = channel then value.getD 0 else s.types other }
  | .failed mask => { s with failures := fun channel => hasChannel mask channel }

/-- What happens at a shelf: a command, or a change, upon which the host looks again. -/
inductive Step where
  | command (c : Command)
  | change (c : Change)
  deriving DecidableEq, Repr

/-- What is answered in a step, and the shelf behind it. -/
def step (label : String) (s : Shelf) : Step → Except Error Response × Shelf
  | .command c => s.perform label c
  | .change c => (s.apply c).perform label .refresh

/-- The shelf that a driver and a simulated controller make up. -/
def view (d : Driver) (s : Simulator) : Shelf where
  presence channel := hasChannel s.config.presence channel
  failures channel := hasChannel s.config.failures channel
  types channel := Fin.ofNat 4 (s.config.driveTypes.get channel).toNat
  locate channel := hasChannel s.config.locate channel
  hostPower := s.hostPower
  flash i := s.flash[i]
  offset := d.flashOffset.toNat

end Shelf
end Backplane

/-!
# Drive channels

A controller watches eight drive channels. For each it reports presence, failure, a type, and
on the newer generation the locate LED. Presence and failure of all channels together are the
fingerprint by which a poller notices a change.
-/
namespace Backplane

/-- The number of channels of one controller. Follows `bpmcu-core/mcu/mod:36`. -/
abbrev channelCount : Nat := 8

theorem channelCount_pos : 0 < channelCount := Nat.succ_pos 7

/-- The type of the drive in a channel. Follows `bpmcu-core/mcu/mod:82-91`. -/
inductive DriveType where
  /-- An empty bay. -/
  | noDisk
  | sataSas
  | nvme
  /-- A value without a meaning. -/
  | unknown
  deriving DecidableEq, Repr

namespace DriveType

/-- The meaning of a value on the wire, if it has one. Follows `bpmcu-core/mcu/mod:95-102`. -/
def ofWire? (value : UInt8) : Option DriveType :=
  if value = 0 then some .noDisk
  else if value = 1 then some .sataSas
  else if value = 2 then some .nvme
  else none

def name : DriveType → String
  | .noDisk => "none"
  | .sataSas => "SATA/SAS"
  | .nvme => "NVMe"
  | .unknown => "unknown"

instance : ToString DriveType := ⟨name⟩

end DriveType

/-- The state of one channel. Follows `bpmcu-core/mcu/state:34-45`. -/
structure ChannelState where
  index : Nat
  present : Bool
  failed : Bool
  driveType : DriveType
  /-- The locate LED, where the protocol can read it back. -/
  locate : Option Bool
  deriving DecidableEq, Repr

/-- The bit of a channel in a mask. -/
def channelBit (index : Nat) : UInt8 := 1 <<< UInt8.ofNat index

/-- Whether a mask has the bit of a channel. -/
def hasChannel (mask : UInt8) (index : Nat) : Bool := mask &&& channelBit index != 0

/-- The raw type of a channel in a word of eight two-bit types. Follows `bpmcu-core/mcu/v1:55-57`. -/
def unpackType (word : UInt16) (index : Nat) : UInt8 :=
  ((word >>> UInt16.ofNat (index * 2)) &&& 3).toUInt8

/-- Eight two-bit types in one word, channel 0 in the lowest bits. Higher bits of a type are lost.
Follows `bpmcu-dummy/sim:399-410`. -/
def packTypes (types : List UInt8) : UInt16 :=
  types.foldr (fun t word => (word <<< 2) ||| (t &&& 3).toUInt16) 0

/-- Presence in the low byte, failures in the next. Follows `bpmcu-core/mcu/mod:220-222`. -/
def fingerprint (presence failures : UInt8) : UInt32 :=
  presence.toUInt32 ||| (failures.toUInt32 <<< 8)

/-- The fingerprint a poller saw last; nothing before the first poll. Follows
`bpmcu-core/mcu/state:11`. -/
structure ChangeCache where
  seen : Option UInt32
  deriving DecidableEq, Repr

namespace ChangeCache

/-- A cache that has seen nothing, so the first fingerprint is a change. Follows
`bpmcu-core/mcu/state:15-17`. -/
def empty : ChangeCache := ⟨none⟩

/-- Whether a fingerprint differs from the one seen last. Follows `bpmcu-core/mcu/state:20-24`. -/
def differs (cache : ChangeCache) (f : UInt32) : Bool := cache.seen != some f

/-- The cache after a fingerprint was seen. Follows `bpmcu-core/mcu/state:20-24`. -/
def note (f : UInt32) : ChangeCache := ⟨some f⟩

end ChangeCache
end Backplane

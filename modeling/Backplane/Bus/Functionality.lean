/-!
# Adapter functionality

An adapter tells what it can do as a set of bits. Bits without a meaning here are dropped when
the set is read, so two adapters that differ only in those count as equal.
-/
namespace Backplane

/-- What an adapter can do: a set of known bits. Follows `bpmcu-core/bus:21-49`. -/
structure Functionality where
  bits : UInt32
  deriving DecidableEq, Repr

namespace Functionality

/-- Plain messages in combined transfers. -/
def i2c : UInt32 := 0x00000001
/-- Packet error checking. -/
def pec : UInt32 := 0x00000008
def readByte : UInt32 := 0x00020000
def writeByte : UInt32 := 0x00040000
def readByteData : UInt32 := 0x00080000
def writeByteData : UInt32 := 0x00100000
def readWordData : UInt32 := 0x00200000
def writeWordData : UInt32 := 0x00400000
def readBlock : UInt32 := 0x04000000
def writeBlock : UInt32 := 0x08000000

/-- Every bit with a meaning. -/
def known : UInt32 :=
  i2c ||| pec ||| readByte ||| writeByte ||| readByteData ||| writeByteData ||| readWordData
    ||| writeWordData ||| readBlock ||| writeBlock

/-- Byte-data transfers in both directions. -/
def byteData : Functionality := ⟨readByteData ||| writeByteData⟩

/-- What the controller protocols need: byte data and blocks both ways, and error checking. Follows
`bpmcu-core/bus:54-56`. -/
def required : Functionality := ⟨byteData.bits ||| readBlock ||| writeBlock ||| pec⟩

/-- The set without any bit. -/
def empty : Functionality := ⟨0⟩

instance : Inhabited Functionality := ⟨empty⟩

/-- Keeps the known bits of a word. -/
def ofBits (word : UInt32) : Functionality := ⟨word &&& known⟩

/-- The bits of both sets. -/
def union (a b : Functionality) : Functionality := ⟨a.bits ||| b.bits⟩

/-- The bits of `a` that `b` lacks. -/
def minus (a b : Functionality) : Functionality := ⟨a.bits &&& ~~~b.bits⟩

/-- Whether every bit of `b` is in `a`. -/
def contains (a b : Functionality) : Bool := a.bits &&& b.bits == b.bits

/-- Whether the adapter can carry the controller protocols. -/
def isSufficient (a : Functionality) : Bool := a.contains required

end Functionality
end Backplane

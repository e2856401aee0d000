/-!
# Flash frames

How the two generations address flash on the wire. The older one puts opcode, offset and length in
front of the data of a single frame; the newer one sends offset and length as an address frame of
their own. Numbers travel with the high byte first. Each encoder stands beside its reader, and
reading what was written gives the parts back (`parseHeader_header`, `parseLocation_location`).
-/
namespace Backplane.Flash

/-- The bytes of a 16-bit word, the high byte first. -/
def bigEndian16 (n : UInt16) : List UInt8 := [.ofNat (n.toNat / 0x100), .ofNat n.toNat]

/-- The bytes of a 32-bit word, the high byte first. -/
def bigEndian32 (n : UInt32) : List UInt8 :=
  [.ofNat (n.toNat / 0x1000000), .ofNat (n.toNat / 0x10000), .ofNat (n.toNat / 0x100), .ofNat n.toNat]

/-- The word of two bytes, the high byte first. -/
def word16 (a b : UInt8) : UInt16 := .ofNat (a.toNat * 0x100 + b.toNat)

/-- The word of four bytes, the high byte first. -/
def word32 (a b c d : UInt8) : UInt32 :=
  .ofNat (a.toNat * 0x1000000 + b.toNat * 0x10000 + c.toNat * 0x100 + d.toNat)

/-- The length of a header. -/
def headerLength : Nat := 7

/-- The header of a write or a readback: opcode, offset, length. Follows `bpmcu-core/mcu/v0:59-65`. -/
def header (opcode : UInt8) (offset : UInt32) (length : UInt16) : List UInt8 :=
  opcode :: (bigEndian32 offset ++ bigEndian16 length)

/-- Reads the header at the start of a frame. Follows `bpmcu-dummy/sim:442-449`. -/
def parseHeader : List UInt8 → Option (UInt8 × UInt32 × UInt16)
  | op :: a :: b :: c :: d :: x :: y :: _ => some (op, word32 a b c d, word16 x y)
  | _ => none

/-- The payload of an address frame: offset, length. Follows `bpmcu-core/mcu/v1:47-52`. -/
def location (offset : UInt32) (length : UInt8) : List UInt8 :=
  bigEndian32 offset ++ [length]

/-- Reads the payload of an address frame. Follows `bpmcu-dummy/sim:479-484`. -/
def parseLocation : List UInt8 → Option (UInt32 × UInt8)
  | [a, b, c, d, n] => some (word32 a b c d, n)
  | _ => none

theorem word16_bigEndian (n : UInt16) :
    word16 (.ofNat (n.toNat / 0x100)) (.ofNat n.toNat) = n := by
  have h := n.toNat_lt
  apply UInt16.toNat_inj.1
  simp only [word16, UInt16.toNat_ofNat', UInt8.toNat_ofNat']
  omega

theorem word32_bigEndian (n : UInt32) :
    word32 (.ofNat (n.toNat / 0x1000000)) (.ofNat (n.toNat / 0x10000)) (.ofNat (n.toNat / 0x100))
      (.ofNat n.toNat) = n := by
  have h := n.toNat_lt
  apply UInt32.toNat_inj.1
  simp only [word32, UInt32.toNat_ofNat', UInt8.toNat_ofNat']
  omega

/-- Reading a header gives its parts back, whatever follows it. -/
theorem parseHeader_header (op : UInt8) (offset : UInt32) (length : UInt16) (data : List UInt8) :
    parseHeader (header op offset length ++ data) = some (op, offset, length) := by
  simp only [header, bigEndian32, bigEndian16, parseHeader, List.cons_append, List.nil_append,
    word32_bigEndian, word16_bigEndian]

/-- Reading an address payload gives its parts back. -/
theorem parseLocation_location (offset : UInt32) (length : UInt8) :
    parseLocation (location offset length) = some (offset, length) := by
  simp only [location, bigEndian32, parseLocation, List.cons_append, List.nil_append,
    word32_bigEndian]

end Backplane.Flash

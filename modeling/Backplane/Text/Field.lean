/-!
# Fixed-size text fields

The controller stores its identity strings in fields of fixed size, padded with NULs, blanks or
erased flash. A field is cut at its first NUL, its trailing blanks, control bytes and `0xFF` bytes
are dropped, and every byte left that is not printable ASCII reads as an underscore.
-/
namespace Backplane.Text

/-- Printable ASCII, the blank included. -/
def isPrintable (b : UInt8) : Bool :=
  0x20 ≤ b && b ≤ 0x7E

/-- Bytes dropped from the end of a field: ASCII control bytes, the blank and erased flash. Follows
`bpmcu-core/text:4,15-21`. -/
def isPadding (b : UInt8) : Bool :=
  b ≤ 0x20 || b == 0x7F || b == 0xFF

/-- The bytes of a field that carry text. Follows `bpmcu-core/text:12-21`. -/
def fieldBytes (raw : List UInt8) : List UInt8 :=
  ((raw.takeWhile (· != 0)).reverse.dropWhile isPadding).reverse

/-- The character a text byte reads as. -/
def fieldChar (b : UInt8) : Char :=
  if isPrintable b then Char.ofNat b.toNat else '_'

/-- The text of a field. Follows `bpmcu-core/text:11-40`. -/
def fieldText (raw : List UInt8) : String :=
  String.ofList ((fieldBytes raw).map fieldChar)

/-- Whether the text of a field shows an underscore in place of an unprintable byte. -/
def fieldReplaced (raw : List UInt8) : Bool :=
  (fieldBytes raw).any fun b => !isPrintable b

end Backplane.Text

/-!
# Hexadecimal text

Numbers and bytes as the log lines, error texts and traces show them: without a sign, in lower
case unless said otherwise, padded with zeros on the left.
-/
namespace Backplane.Text

/-- The text of `n` in base 16, lower case, at least `width` digits. -/
def hex (width n : Nat) : String :=
  let digits := Nat.toDigits 16 n
  String.ofList (List.replicate (width - digits.length) '0' ++ digits)

/-- The text of `n` in base 16, upper case, at least `width` digits. -/
def hexUpper (width n : Nat) : String :=
  let digits := (Nat.toDigits 16 n).map Char.toUpper
  String.ofList (List.replicate (width - digits.length) '0' ++ digits)

/-- The lower-case digit of a number below 16. -/
def hexDigit (n : UInt8) : Char :=
  if n < 10 then Char.ofNat (48 + n.toNat) else Char.ofNat (87 + n.toNat)

/-- Appends the two digits of a byte. -/
def pushHex (line : String) (b : UInt8) : String :=
  (line.push (hexDigit (b >>> 4))).push (hexDigit (b &&& 15))

/-- A byte as two digits. -/
def hexByte (b : UInt8) : String :=
  pushHex "" b

/-- Bytes as pairs of digits without separators. -/
def hexBytes (bytes : List UInt8) : String :=
  bytes.foldl pushHex ""

/-- The value of a digit. -/
def hexValue? (c : Char) : Option UInt8 :=
  if '0' ≤ c ∧ c ≤ '9' then some (.ofNat (c.toNat - 48))
  else if 'a' ≤ c ∧ c ≤ 'f' then some (.ofNat (c.toNat - 87))
  else none

/-- The bytes that pairs of digits stand for. -/
def parseHexBytes : List Char → Option (List UInt8)
  | [] => some []
  | a :: b :: rest => do
    let high ← hexValue? a
    let low ← hexValue? b
    let bytes ← parseHexBytes rest
    pure ((high <<< 4 ||| low) :: bytes)
  | [_] => none

/-- Appends a named payload to a log line: the name, the length and every byte after a blank.
Follows `bpmcu-core/transport:64-69`. -/
def pushPayload (line name : String) (bytes : List UInt8) : String :=
  bytes.foldl (fun acc b => pushHex (acc.push ' ') b) s!"{line} {name} ({bytes.length}):"

end Backplane.Text

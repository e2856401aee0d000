import Backplane.Number.Binary64
import Backplane.Text.Numeral
import Backplane.Toml.Reader

/-!
# Numbers in a document

Single underscores may stand between digits. A decimal whole number has no leading zeros, and may
have a sign; behind `0x`, `0o` and `0b` stand digits of another radix. Whole numbers are those of 64
bits with a sign. A number with a fraction or an exponent is a binary one of 64 bits, and must not be
too large for it, unless it is negative.
-/
namespace Backplane.Toml
open Reader

/-- One digit. -/
def digit (radix : Nat) : Reader Nat := do
  match Text.digit? radix (← next) with
  | some d => pure d
  | none => failure

/-- Digits, with single underscores between them. -/
def digits (radix : Nat) : Reader (List Nat) := do
  let first ← digit radix
  let rest ← many (digit radix <|> do char '_'; digit radix)
  pure (first :: rest)

/-- The value of digits, the highest first. -/
def positional (radix : Nat) (digits : List Nat) : Nat :=
  digits.foldl (fun value d => value * radix + d) 0

/-- An optional sign: whether it is a minus. -/
def sign : Reader Bool :=
  (do char '-'; pure true) <|> (do char '+'; pure false) <|> pure false

/-- Decimal digits without leading zeros. -/
def wholeDigits : Reader (List Nat) := (do char '0'; pure [0]) <|> digits 10

/-- The largest whole number. -/
def integerMax : Int := Int64.maxValue.toInt

/-- The smallest whole number. -/
def integerMin : Int := Int64.minValue.toInt

/-- The whole number of a sign and digits, if it is in range. -/
def bounded (negative : Bool) (magnitude : Nat) : Reader Int :=
  let n : Int := if negative then -magnitude else magnitude
  if integerMin ≤ n ∧ n ≤ integerMax then pure n else failure

/-- A whole number of another radix. -/
def announced (start : List Char) (radix : Nat) : Reader Int := do
  literal start
  bounded false (positional radix (← digits radix))

/-- A whole number. -/
def integer : Reader Int :=
  announced ['0', 'x'] 16 <|> announced ['0', 'o'] 8 <|> announced ['0', 'b'] 2 <|> do
    let negative ← sign
    bounded negative (positional 10 (← wholeDigits))

/-- The digits of an exponent. -/
def exponent : Reader Int := do
  char 'e' <|> char 'E'
  let negative ← sign
  let n := positional 10 (← digits 10)
  pure (if negative then -n else n)

/-- A decimal number with a fraction or an exponent. -/
def decimal : Reader Number.Binary64 := do
  let negative ← sign
  let whole ← wholeDigits
  let fraction ← option (do char '.'; digits 10)
  let power ← option exponent
  if fraction.isNone && power.isNone then failure
  else
    let places := fraction.getD []
    let x := Number.Binary64.ofDecimal negative (positional 10 (whole ++ places))
      (power.getD 0 - places.length)
    if x = .infinite false then failure else pure x

/-- A number that is no decimal one. -/
def special : Reader Number.Binary64 := do
  let negative ← sign
  (do literal "inf".toList; pure (.infinite negative)) <|> (do literal "nan".toList; pure .nan)

/-- A number that is not whole. -/
def float : Reader Number.Binary64 := decimal <|> special

end Backplane.Toml

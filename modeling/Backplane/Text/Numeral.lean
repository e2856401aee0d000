/-!
# Numerals of bounded value

An unsigned numeral is an optional `+` and one or more digits of its radix, nothing else: no
blanks, no separators, and a minus sign is no digit. Digits are read from the left and the first
obstacle is reported, so a value that leaves the range is reported before a bad digit behind it.
-/
namespace Backplane.Text

/-- Why a text is no numeral. -/
inductive NumeralFault where
  | empty
  | badDigit
  | tooLarge
  deriving DecidableEq, Repr

def NumeralFault.message : NumeralFault → String
  | .empty => "cannot parse integer from empty string"
  | .badDigit => "invalid digit found in string"
  | .tooLarge => "number too large to fit in target type"

/-- The value of an ASCII digit or letter as a digit of `radix` (at most 36). -/
def digit? (radix : Nat) (c : Char) : Option Nat :=
  let n := c.toNat
  let value :=
    if 48 ≤ n && n ≤ 57 then some (n - 48)
    else if 97 ≤ n && n ≤ 122 then some (n - 87)
    else if 65 ≤ n && n ≤ 90 then some (n - 55)
    else none
  value.filter (· < radix)

/-- Reads digits behind a value already read; `limit` is the largest value in range. -/
def digits (radix limit : Nat) : Nat → List Char → Except NumeralFault Nat
  | value, [] => .ok value
  | value, c :: rest =>
    match digit? radix c with
    | none => .error .badDigit
    | some d =>
      if value * radix + d ≤ limit then digits radix limit (value * radix + d) rest
      else .error .tooLarge

/-- Reads an unsigned numeral of value at most `limit`. -/
def numeral (radix limit : Nat) : List Char → Except NumeralFault Nat
  | [] => .error .empty
  | ['+'] => .error .badDigit
  | '+' :: rest => digits radix limit 0 rest
  | cs => digits radix limit 0 cs

/-- The largest value of a 32-bit word. -/
def wordLimit : Nat := UInt32.size - 1

/-- The largest value of a 64-bit word. -/
def longLimit : Nat := UInt64.size - 1

end Backplane.Text

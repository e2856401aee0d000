import Backplane.Text.Numeral
import Backplane.Toml.Reader

/-!
# Moments in a document

A moment is a date, a time of day, or both with or without an offset. Only that it is one is kept.
-/
namespace Backplane.Toml
open Reader

/-- A number of exactly `places` decimal digits, within bounds. -/
def fixed (places low high : Nat) : Reader Nat := do
  match Text.digits 10 Text.wordLimit 0 (← count places) with
  | .ok n => if low ≤ n ∧ n ≤ high then pure n else failure
  | .error _ => failure

/-- Whether a year has a leap day. -/
def isLeap (year : Nat) : Bool := year % 4 = 0 && (year % 100 ≠ 0 || year % 400 = 0)

/-- The number of days in a month. -/
def daysIn (year month : Nat) : Nat :=
  if month = 2 then if isLeap year then 29 else 28
  else if [4, 6, 9, 11].contains month then 30
  else 31

/-- A date. -/
def date : Reader Unit := do
  let year ← fixed 4 0 9999
  char '-'
  let month ← fixed 2 1 12
  char '-'
  let _ ← fixed 2 1 (daysIn year month)

/-- A time of day; a minute can have a leap second. -/
def time : Reader Unit := do
  let _ ← fixed 2 0 23
  char ':'
  let _ ← fixed 2 0 59
  char ':'
  let _ ← fixed 2 0 60
  let _ ← option do
    char '.'
    let _ ← run Char.isDigit

/-- The offset of a clock. -/
def offset : Reader Unit :=
  (do let _ ← charOf fun c => c = 'Z' || c = 'z') <|> do
    let _ ← charOf fun c => c = '+' || c = '-'
    let _ ← fixed 2 0 23
    char ':'
    let _ ← fixed 2 0 59

/-- A moment in any form. -/
def moment : Reader Unit :=
  (do
    date
    let _ ← option do
      let _ ← charOf fun c => c = 'T' || c = 't' || c = ' '
      time
      option offset)
  <|> time

end Backplane.Toml

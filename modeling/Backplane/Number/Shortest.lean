import Backplane.Number.Binary64

/-!
# Shortest decimals

A binary number is shown with the fewest decimal digits that read back as it, and of those with
the digits nearest to it: the decimals are tried from the coarsest grid on, and on each grid the two
neighbours of the number. The text is always positional.
-/
namespace Backplane.Number

/-- The numbers that round to a mantissa reach from `low` to `high`, in quarters of a unit. Below a
power of two the next number is half as far. -/
structure Reach where
  low : Nat
  high : Nat
  /-- The ends round to the mantissa as well. -/
  closed : Bool

/-- The reach of `mantissa * 2 ^ exponent`. -/
def reach (mantissa : Nat) (exponent : Int) : Reach where
  low :=
    if mantissa = Binary64.mantissaMin ∧ exponent ≠ Binary64.exponentMin then 4 * mantissa - 1
    else 4 * mantissa - 2
  high := 4 * mantissa + 2
  closed := mantissa % 2 = 0

/-- Whether the fraction `num / den`, in quarters of a unit, is within a reach. -/
def Reach.holds (r : Reach) (num den : Nat) : Bool :=
  if r.closed then r.low * den ≤ num && num ≤ r.high * den
  else r.low * den < num && num < r.high * den

/-- The decimal `digits * 10 ^ power` in quarters of `2 ^ exponent`. -/
def inQuarters (exponent power : Int) (digits : Nat) : Nat × Nat :=
  let (a, b) := scale 10 power (4 * digits) 1
  scale 2 (-exponent) a b

/-- The digits on one grid that read back as the number: the nearer ones of two, and the larger ones
of two that are equally near. -/
def onGrid? (mantissa : Nat) (exponent power : Int) : Option Nat :=
  let (a, b) := scale 2 exponent mantissa 1
  let (num, den) := scale 10 (-power) a b
  let below := num / den
  let fits (digits : Nat) : Bool :=
    let (x, y) := inQuarters exponent power digits
    digits != 0 && (reach mantissa exponent).holds x y
  match fits below, fits (below + 1) with
  | true, true => some (if 2 * (num % den) < den then below else below + 1)
  | true, false => some below
  | false, true => some (below + 1)
  | false, false => none

/-- Tries the grids from `power` on, `left` of them. -/
def shortestFrom (mantissa : Nat) (exponent : Int) : (left : Nat) → (power : Int) → Nat × Int
  | 0, power => (0, power)
  | left + 1, power =>
    match onGrid? mantissa exponent power with
    | some digits => (digits, power)
    | none => shortestFrom mantissa exponent left (power - 1)

/-- The coarsest grid that can hold a number. -/
def coarsest : Int := 309

/-- The number of grids: the finest has the places of the smallest number. -/
def gridCount : Nat := 309 + 1080

/-- The digits and the power of ten of a positive number. -/
def shortest (mantissa : Nat) (exponent : Int) : Nat × Int :=
  shortestFrom mantissa exponent gridCount coarsest

/-- Digits with a point, or a point and a zero behind whole numbers. -/
def positional (digits : Nat) (power : Int) : String :=
  let shown := Nat.toDigits 10 digits
  match power with
  | .ofNat n => String.ofList (shown ++ List.replicate n '0') ++ ".0"
  | .negSucc n =>
    let places := n + 1
    let padded := List.replicate (places + 1 - shown.length) '0' ++ shown
    let whole := padded.length - places
    String.ofList (padded.take whole) ++ "." ++ String.ofList (padded.drop whole)

/-- The text of a number. -/
def Binary64.text : Binary64 → String
  | .nan => "NaN"
  | .infinite negative => if negative then "-inf" else "inf"
  | .finite negative mantissa exponent =>
    let shown :=
      if mantissa = 0 then "0.0"
      else positional (shortest mantissa exponent).1 (shortest mantissa exponent).2
    if negative then "-" ++ shown else shown

end Backplane.Number

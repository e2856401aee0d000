/-!
# Binary numbers of 64 bits

A finite number is a mantissa of at most 53 bits times a power of two that is not below 2^-1074.
A decimal numeral stands for the nearest of them, the even one of two that are equally near; what
is too large is infinite.
-/
namespace Backplane.Number

inductive Binary64 where
  /-- The number `mantissa * 2 ^ exponent`. -/
  | finite (negative : Bool) (mantissa : Nat) (exponent : Int)
  | infinite (negative : Bool)
  | nan
  deriving DecidableEq, Repr

/-- A fraction rounded to the nearest whole number, a half to the even one. -/
def roundHalfEven (num den : Nat) : Nat :=
  let q := num / den
  let r := num % den
  if 2 * r < den then q
  else if 2 * r > den then q + 1
  else if q % 2 = 0 then q else q + 1

/-- The fraction `num / den` times a power of `base`, as a fraction. -/
def scale (base : Nat) (power : Int) (num den : Nat) : Nat × Nat :=
  match power with
  | .ofNat n => (num * base.pow n, den)
  | .negSucc n => (num, den * base.pow (n + 1))

namespace Binary64

/-- The smallest exponent. -/
def exponentMin : Int := -1074

/-- The largest exponent. -/
def exponentMax : Int := 971

/-- The smallest mantissa of 53 bits. -/
def mantissaMin : Nat := 0x10000000000000

/-- The power of two at or below a positive fraction. -/
def floorLog2 (num den : Nat) : Int :=
  let guess : Int := num.log2 - den.log2
  let (a, b) := scale 2 (-guess) num den
  if b ≤ a then guess else guess - 1

/-- The number nearest to a positive fraction. -/
def ofFraction (negative : Bool) (num den : Nat) : Binary64 :=
  let exponent := max (floorLog2 num den - 52) exponentMin
  let (a, b) := scale 2 (-exponent) num den
  let mantissa := roundHalfEven a b
  let (mantissa, exponent) :=
    if mantissa = 2 * mantissaMin then (mantissaMin, exponent + 1) else (mantissa, exponent)
  if exponentMax < exponent then .infinite negative else .finite negative mantissa exponent

/-- More decimal places before or behind the point than any number has. -/
def placesMax : Int := 400

/-- The number nearest to `digits * 10 ^ power`. -/
def ofDecimal (negative : Bool) (digits : Nat) (power : Int) : Binary64 :=
  let places : Int := (Nat.toDigits 10 digits).length + power
  if digits = 0 then .finite negative 0 0
  else if placesMax < places then .infinite negative
  else if places < -placesMax then .finite negative 0 0
  else
    let (num, den) := scale 10 power digits 1
    ofFraction negative num den

end Binary64
end Backplane.Number

/-!
# Rounding to 64-bit binary numbers

Exact rational numbers are rounded to the grid of 64-bit binary floating-point
numbers: 53 significant bits, the finest step `2^-1074`, halves to the even
neighbour.  Results of `2^1024` and more are infinite.
-/

namespace Triage.Number

/-- The exponent `e` for which a positive number lies in `[2^e, 2^(e+1))`. -/
def binaryExponent (x : Rat) : Int :=
  let guess : Int := (Nat.log2 x.num.natAbs : Int) - (Nat.log2 x.den : Int)
  if x < (2 : Rat) ^ guess then guess - 1 else guess

/-- The nearest integer; halves go to the even neighbour. -/
def roundHalfEven (x : Rat) : Int :=
  let below := x.floor
  let rest := x - below
  if rest < 1 / 2 then below
  else if 1 / 2 < rest then below + 1
  else if below % 2 = 0 then below
  else below + 1

/-- The nearest multiple of `2^exponent`. -/
def roundToGrid (exponent : Int) (x : Rat) : Rat :=
  (roundHalfEven (x / (2 : Rat) ^ exponent) : Rat) * (2 : Rat) ^ exponent

/-- The nearest number of 53 significant bits to a number that is not negative. -/
def nearest (x : Rat) : Rat := roundToGrid (max (binaryExponent x - 52) (-1074)) x

/-- A 64-bit binary number.  A finite one has a sign and a magnitude on the grid. -/
inductive Binary64 where
  | nan
  | infinity (negative : Bool)
  | finite (negative : Bool) (magnitude : Rat)
deriving DecidableEq

namespace Binary64

/-- The number nearest to a rational of given sign and magnitude. -/
def ofMagnitude (negative : Bool) (magnitude : Rat) : Binary64 :=
  let rounded := nearest magnitude
  if rounded < (2 : Rat) ^ (1024 : Int) then finite negative rounded else infinity negative

/-- The number is zero, of either sign. -/
def isZero : Binary64 → Bool
  | finite _ magnitude => magnitude = 0
  | _ => false

/-- The nearest integer between two bounds, halves away from zero.  What is not a
number counts as zero. -/
def roundWithin (low high : Int) (number : Binary64) : Int :=
  match number with
  | nan => 0
  | infinity negative => if negative then low else high
  | finite negative magnitude =>
      let rounded := (magnitude + 1 / 2).floor
      max low (min high (if negative then -rounded else rounded))

end Binary64

end Triage.Number

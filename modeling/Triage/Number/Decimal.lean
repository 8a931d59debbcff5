import Triage.Number.Binary64
import Triage.Text.Scan

/-!
# Decimal text of binary numbers

Reading takes any decimal text to the nearest 64-bit binary number.  Writing
takes the fewest decimal digits that read back, of those the nearest, and writes
them without an exponent.
-/

namespace Triage.Number

open Triage.Text

/-- A decimal number: digits times a power of ten, with a sign. -/
structure Decimal where
  negative : Bool
  digits : Nat
  exponent : Int
deriving DecidableEq, Repr

namespace Decimal

/-- The number written by digits before and after a point, and an exponent. -/
def ofParts (negative : Bool) (whole fraction : List Char) (exponent : Int) : Decimal :=
  ⟨negative, numberOfDigits (whole ++ fraction), exponent - fraction.length⟩

/-- The nearest binary number.  Exponents far out of range are not expanded. -/
def toBinary64 (number : Decimal) : Binary64 :=
  let places : Int := (decimal number.digits).length + number.exponent
  if number.digits = 0 ∨ places < -400 then
    .finite number.negative 0
  else if 400 < places then
    .infinity number.negative
  else
    .ofMagnitude number.negative ((number.digits : Rat) * (10 : Rat) ^ number.exponent)

end Decimal

/-- The exponent `e` for which a positive number lies in `[10^e, 10^(e+1))`. -/
def decimalExponent (x : Rat) : Int :=
  let guess : Int :=
    ((decimal x.num.natAbs).length : Int) - ((decimal x.den).length : Int)
  if x < (10 : Rat) ^ guess then guess - 1 else guess

/-- The multiples of `10^exponent` next to a number that read back as it, the nearer
one first, the greater one when both are as near. -/
def neighbours (x : Rat) (exponent : Int) : List Nat :=
  let scaled := x / (10 : Rat) ^ exponent
  let below := scaled.floor.toNat
  let ordered := if scaled - below < 1 / 2 then [below, below + 1] else [below + 1, below]
  ordered.filter fun digits => nearest ((digits : Rat) * (10 : Rat) ^ exponent) = x

/-- The fewest digits that read back as a positive number, with their exponent.  The
power of ten above the number is tried as well. -/
def shortest (x : Rat) : Nat × Int :=
  let coarsest := decimalExponent x + 1
  ((List.range 18).findSome? fun (count : Nat) =>
    let exponent : Int := coarsest - count
    ((neighbours x exponent).head?).map fun digits => (digits, exponent)).getD (0, 0)

/-- Digits times a power of ten, without an exponent. -/
def positional (digits : Nat) (exponent : Int) : List Char :=
  let text := decimal digits
  if 0 ≤ exponent then
    text ++ List.replicate exponent.toNat '0'
  else
    let places := exponent.natAbs
    let padded := List.replicate (places + 1 - text.length) '0' ++ text
    padded.take (padded.length - places) ++ ['.'] ++ padded.drop (padded.length - places)

namespace Binary64

/-- The number in decimal digits, always with a point. -/
def text : Binary64 → String
  | nan => "NaN"
  | infinity negative => if negative then "-inf" else "inf"
  | finite negative magnitude =>
      let digits :=
        if magnitude = 0 then ['0']
        else
          let (digits, exponent) := shortest magnitude
          positional digits exponent
      let pointed := if digits.contains '.' then digits else digits ++ ['.', '0']
      String.ofList ((if negative then ['-'] else []) ++ pointed)

/-- Digits with an optional point between them; a digit must stand on one side of it. -/
def mantissa? (text : List Char) : Option (List Char × List Char × List Char) :=
  let whole := text.takeWhile Char.isDigit
  let afterWhole := text.drop whole.length
  let (fraction, rest) :=
    match afterWhole with
    | '.' :: later =>
        let fraction := later.takeWhile Char.isDigit
        (fraction, later.drop fraction.length)
    | _ => ([], afterWhole)
  if whole.isEmpty && fraction.isEmpty then none else some (whole, fraction, rest)

/-- The exponent that ends a number, zero when there is none. -/
def exponent? : List Char → Option Int
  | [] => some 0
  | c :: rest =>
      if c = 'e' ∨ c = 'E' then
        let (negative, digits) := signOf rest
        if digits.isEmpty || !digits.all Char.isDigit then none
        else
          let magnitude : Int := numberOfDigits digits
          some (if negative then -magnitude else magnitude)
      else
        none

/-- The number that a whole text writes: `inf`, `infinity` or `nan` in any case, or
digits with an optional point and exponent, all with an optional sign. -/
def read? (text : List Char) : Option Binary64 :=
  let (negative, rest) := signOf text
  let word := String.ofList (lowerAscii rest)
  if word = "inf" ∨ word = "infinity" then some (infinity negative)
  else if word = "nan" then some nan
  else do
    let (whole, fraction, rest) ← mantissa? rest
    let exponent ← exponent? rest
    return (Decimal.ofParts negative whole fraction exponent).toBinary64

end Binary64

end Triage.Number

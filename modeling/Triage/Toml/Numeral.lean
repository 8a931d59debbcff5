import Triage.Number.Decimal
import Triage.Toml.Character
import Triage.Toml.Value

/-!
# Numbers in TOML

Integers have 64 bits and may be written in base two, eight and sixteen.  An
underscore may stand between two digits.  A number with a point or an exponent is
real; it must not be too large, though it may be too far below zero.
-/

namespace Triage.Toml

open Triage.Number Triage.Text

/-- The digits that follow a digit; an underscore needs a digit behind it. -/
def moreDigits? (isDigit : Char → Bool) : List Char → Option (List Char × List Char)
  | [] => some ([], [])
  | ['_'] => none
  | '_' :: c :: rest =>
      if isDigit c then
        (moreDigits? isDigit rest).map fun (digits, rest) => (c :: digits, rest)
      else
        none
  | c :: rest =>
      if isDigit c then
        (moreDigits? isDigit rest).map fun (digits, rest) => (c :: digits, rest)
      else
        some ([], c :: rest)

/-- Digits, at least one. -/
def someDigits? (isDigit : Char → Bool) : List Char → Option (List Char × List Char)
  | [] => none
  | c :: rest =>
      if isDigit c then
        (moreDigits? isDigit rest).map fun (digits, rest) => (c :: digits, rest)
      else
        none

/-- Digits of a whole number: nothing follows a leading zero. -/
def wholeDigits? : List Char → Option (List Char × List Char)
  | '0' :: rest => some (['0'], rest)
  | text => someDigits? Char.isDigit text

/-- The integer, when it has 64 bits. -/
def integer? (value : Int) : Option Literal :=
  if -9223372036854775808 ≤ value ∧ value ≤ 9223372036854775807 then
    some (.integer value)
  else
    none

/-- The real number, unless it is too large. -/
def real? (number : Decimal) : Option Literal :=
  let value := number.toBinary64
  if value = .infinity false then none else some (.real value)

/-- An exponent behind its letter. -/
def exponentDigits? (text : List Char) : Option (Int × List Char) :=
  let (negative, rest) := signOf text
  (someDigits? Char.isDigit rest).map fun (digits, rest) =>
    let magnitude : Int := numberInBase 10 digits
    (if negative then -magnitude else magnitude, rest)

/-- An optional exponent. -/
def exponent? : List Char → Option (Int × List Char)
  | 'e' :: rest => exponentDigits? rest
  | 'E' :: rest => exponentDigits? rest
  | text => some (0, text)

/-- A number in base ten behind its sign. -/
def decimalNumber? (negative : Bool) (text : List Char) : Option (Literal × List Char) := do
  let (whole, rest) ← wholeDigits? text
  match rest with
  | '.' :: later => do
      let (fraction, rest) ← someDigits? Char.isDigit later
      let (exponent, rest) ← exponent? rest
      let number ← real? (Decimal.ofParts negative whole fraction exponent)
      some (number, rest)
  | c :: later =>
      if c = 'e' ∨ c = 'E' then do
        let (exponent, rest) ← exponentDigits? later
        let number ← real? (Decimal.ofParts negative whole [] exponent)
        some (number, rest)
      else
        let magnitude : Int := numberInBase 10 whole
        (integer? (if negative then -magnitude else magnitude)).map (·, c :: later)
  | [] =>
      let magnitude : Int := numberInBase 10 whole
      (integer? (if negative then -magnitude else magnitude)).map (·, [])

/-- An integer in another base, behind the letter of the base. -/
def integerInBase? (base : Nat) (isDigit : Char → Bool) (text : List Char) :
    Option (Literal × List Char) :=
  (someDigits? isDigit text).bind fun (digits, rest) =>
    (integer? (numberInBase base digits)).map (·, rest)

/-- A number behind its sign, where `inf` and `nan` are numbers too. -/
def signedNumber? (negative : Bool) : List Char → Option (Literal × List Char)
  | 'i' :: 'n' :: 'f' :: rest => some (.real (.infinity negative), rest)
  | 'n' :: 'a' :: 'n' :: rest => some (.real .nan, rest)
  | text => decimalNumber? negative text

/-- A number. -/
def number? : List Char → Option (Literal × List Char)
  | '0' :: 'x' :: rest => integerInBase? 16 isHexadecimal rest
  | '0' :: 'o' :: rest => integerInBase? 8 (fun c => '0' ≤ c && c ≤ '7') rest
  | '0' :: 'b' :: rest => integerInBase? 2 (fun c => c = '0' || c = '1') rest
  | '+' :: rest => signedNumber? false rest
  | '-' :: rest => signedNumber? true rest
  | text => signedNumber? false text

end Triage.Toml

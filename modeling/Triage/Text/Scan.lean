/-!
# Reading from the front of a text

Small total readers over lists of characters.  Each returns what it read
together with the rest of the text, or nothing when the text does not start with
what it reads.
-/

namespace Triage.Text

/-- Unicode white space. -/
def isBlank (c : Char) : Bool :=
  let code := c.toNat
  (0x09 ≤ code && code ≤ 0x0D) || code = 0x20 || code = 0x85 || code = 0xA0 ||
    code = 0x1680 || (0x2000 ≤ code && code ≤ 0x200A) || code = 0x2028 || code = 0x2029 ||
    code = 0x202F || code = 0x205F || code = 0x3000

/-- The text without the white space at its front. -/
def skipBlanks (text : List Char) : List Char := text.dropWhile isBlank

/-- The text without the white space at either end. -/
def trim (text : List Char) : List Char :=
  (skipBlanks (skipBlanks text).reverse).reverse

/-- Skip white space, of which there must be some. -/
def blanks? : List Char → Option (List Char)
  | [] => none
  | c :: rest => if isBlank c then some (skipBlanks rest) else none

/-- Skip one given character. -/
def symbol? (symbol : Char) : List Char → Option (List Char)
  | [] => none
  | c :: rest => if c = symbol then some rest else none

/-- The value of a decimal digit. -/
def digitValue (c : Char) : Nat := c.toNat - '0'.toNat

/-- The number that decimal digits write. -/
def numberOfDigits (digits : List Char) : Nat :=
  digits.foldl (fun number c => 10 * number + digitValue c) 0

/-- The decimal digits at the front, at most `most` of them and at least `least`. -/
def digits? (least most : Nat) (text : List Char) : Option (List Char × List Char) :=
  let found := (text.take most).takeWhile Char.isDigit
  if found.length < least then none else some (found, text.drop found.length)

/-- The number written by the digits at the front. -/
def number? (least most : Nat) (text : List Char) : Option (Nat × List Char) :=
  (digits? least most text).map fun (digits, rest) => (numberOfDigits digits, rest)

/-- An optional sign; true for minus. -/
def signOf : List Char → Bool × List Char
  | '-' :: rest => (true, rest)
  | '+' :: rest => (false, rest)
  | text => (false, text)

/-- The number that a whole text of digits writes; a plus may stand in front. -/
def natural? (text : List Char) : Option Nat :=
  let digits :=
    match text with
    | '+' :: rest => rest
    | text => text
  if digits.isEmpty || !digits.all Char.isDigit then none else some (numberOfDigits digits)

/-- The integer that a whole text of digits with an optional sign writes. -/
def integer? (text : List Char) : Option Int :=
  let (negative, digits) := signOf text
  if digits.isEmpty || !digits.all Char.isDigit then
    none
  else
    let magnitude : Int := numberOfDigits digits
    some (if negative then -magnitude else magnitude)

/-- The integer between two bounds that a whole text writes. -/
def integerWithin? (low high : Int) (text : List Char) : Option Int :=
  (integer? text).filter fun number => low ≤ number && number ≤ high

/-- A text in which ASCII letters are lower case. -/
def lowerAscii (text : List Char) : List Char := text.map Char.toLower

/-- The place in a list of the three-letter name at the front, in any case. -/
def shortName? (names : List String) (text : List Char) : Option (Nat × List Char) :=
  let word := lowerAscii (text.take 3)
  (names.findIdx? fun name => lowerAscii name.toList = word).map fun index =>
    (index, text.drop 3)

/-- The digit character of a number below ten. -/
def digitChar (number : Nat) : Char := Char.ofNat ('0'.toNat + number)

/-- A number below a hundred in two digits. -/
def twoDigits (number : Nat) : List Char :=
  [digitChar (number / 10), digitChar (number % 10)]

/-- A number below ten thousand in four digits. -/
def fourDigits (number : Nat) : List Char :=
  twoDigits (number / 100) ++ twoDigits (number % 100)

/-- A number in decimal digits. -/
def decimal (number : Nat) : List Char := Nat.toDigits 10 number

/-- A number in decimal digits, filled up with zeros to a least width. -/
def paddedDecimal (width number : Nat) : List Char :=
  let digits := decimal number
  List.replicate (width - digits.length) '0' ++ digits

end Triage.Text

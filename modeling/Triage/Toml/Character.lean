/-!
# Character classes of TOML
-/

namespace Triage.Toml

/-- Blanks inside a line. -/
def isSpace (c : Char) : Bool := c = ' ' || c = '\t'

/-- Characters that may stand in a comment: all but controls. -/
def isCommentCharacter (c : Char) : Bool :=
  c = '\t' || (32 ≤ c.toNat && c.toNat ≠ 127)

/-- Characters that stand for themselves in text between double quotes. -/
def isBasicCharacter (c : Char) : Bool :=
  isCommentCharacter c && c ≠ '"' && c ≠ '\\'

/-- Characters that stand for themselves in text between single quotes. -/
def isLiteralCharacter (c : Char) : Bool :=
  isCommentCharacter c && c ≠ '\''

/-- Characters of keys without quotes. -/
def isKeyCharacter (c : Char) : Bool :=
  c.isAlphanum || c = '-' || c = '_'

/-- Hexadecimal digits. -/
def isHexadecimal (c : Char) : Bool :=
  c.isDigit || ('a' ≤ c && c ≤ 'f') || ('A' ≤ c && c ≤ 'F')

/-- The value of a digit in any base up to sixteen. -/
def digitValueOf (c : Char) : Nat :=
  if c.isDigit then c.toNat - '0'.toNat
  else if 'a' ≤ c then c.toNat - 'a'.toNat + 10
  else c.toNat - 'A'.toNat + 10

/-- The number that digits of a base write. -/
def numberInBase (base : Nat) (digits : List Char) : Nat :=
  digits.foldl (fun number c => base * number + digitValueOf c) 0

/-- The text without the blanks at its front. -/
def skipSpaces (text : List Char) : List Char := text.dropWhile isSpace

/-- Skip blanks, a comment, and the end of the line, which may be the end of the text. -/
def lineEnd? (text : List Char) : Option (List Char) :=
  let rest := skipSpaces text
  let rest :=
    match rest with
    | '#' :: comment => comment.dropWhile isCommentCharacter
    | _ => rest
  match rest with
  | [] => some []
  | '\n' :: later => some later
  | '\r' :: '\n' :: later => some later
  | _ => none

/-- Skip blanks, line ends and comments inside an array. -/
def skipTrivia? : (inComment : Bool) → List Char → Option (List Char)
  | true, [] => none
  | false, [] => some []
  | _, '\n' :: rest => skipTrivia? false rest
  | _, '\r' :: '\n' :: rest => skipTrivia? false rest
  | true, c :: rest => if isCommentCharacter c then skipTrivia? true rest else none
  | false, c :: rest =>
      if c = '#' then skipTrivia? true rest
      else if isSpace c then skipTrivia? false rest
      else some (c :: rest)

end Triage.Toml

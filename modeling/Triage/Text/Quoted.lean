import Triage.Text.Printable

/-!
# Quoted text

Text is quoted for messages so that every character can be told from every
other: what is not shown as itself is written with a backslash.  Paths may hold
bytes that are no text; they are written in hexadecimal.
-/

namespace Triage.Text

/-- A hexadecimal digit. -/
def hexDigit (number : Nat) (upper : Bool) : Char :=
  if number < 10 then Char.ofNat ('0'.toNat + number)
  else Char.ofNat ((if upper then 'A' else 'a').toNat + (number - 10))

/-- A number in lower-case hexadecimal digits. -/
def hexadecimal (number : Nat) : List Char := Nat.toDigits 16 number

/-- A character inside double quotes. -/
def quoteCharacter (c : Char) : List Char :=
  if c = '\x00' then ['\\', '0']
  else if c = '\t' then ['\\', 't']
  else if c = '\r' then ['\\', 'r']
  else if c = '\n' then ['\\', 'n']
  else if c = '\\' then ['\\', '\\']
  else if c = '"' then ['\\', '"']
  else if isPrintable c then [c]
  else "\\u\x7b".toList ++ hexadecimal c.toNat ++ "\x7d".toList

/-- A text in double quotes. -/
def quote (text : String) : String :=
  String.ofList ('"' :: text.toList.flatMap quoteCharacter ++ ['"'])

/-- A byte that is no text, inside double quotes. -/
def quoteByte (byte : UInt8) : List Char :=
  ['\\', 'x', hexDigit (byte.toNat / 16) true, hexDigit (byte.toNat % 16) true]

end Triage.Text

import Triage.Text.Quoted

/-!
# Text in JSON

Inside double quotes, a quote, a backslash and the control characters below the
space are written with a backslash; every other character stands for itself.
-/

namespace Triage.Text

/-- A character inside a JSON text. -/
def jsonCharacter (c : Char) : List Char :=
  if c = '"' then ['\\', '"']
  else if c = '\\' then ['\\', '\\']
  else if c = '\x08' then ['\\', 'b']
  else if c = '\t' then ['\\', 't']
  else if c = '\n' then ['\\', 'n']
  else if c = '\x0c' then ['\\', 'f']
  else if c = '\r' then ['\\', 'r']
  else if c.toNat < 32 then
    ['\\', 'u', '0', '0', hexDigit (c.toNat / 16) false, hexDigit (c.toNat % 16) false]
  else [c]

/-- A text as JSON. -/
def jsonText (text : String) : String :=
  String.ofList ('"' :: text.toList.flatMap jsonCharacter ++ ['"'])

end Triage.Text

import Triage.Toml.Character

/-!
# Quoted text in TOML

Text stands between double quotes, where a backslash starts an escape, or between
single quotes, where every character stands for itself.  Three quotes open text
that may run over several lines; its first line end does not count, and up to two
quotes may stand directly before the three that close it.
-/

namespace Triage.Toml

/-- The character with a code, which must not be a surrogate. -/
def codePoint? (digits : List Char) : Option Char :=
  let code := numberInBase 16 digits
  if digits.all isHexadecimal ∧ code.isValidChar then some (Char.ofNat code) else none

/-- The character behind a backslash. -/
def escape? (c : Char) : Option Char :=
  if c = 'b' then some '\x08'
  else if c = 't' then some '\t'
  else if c = 'n' then some '\n'
  else if c = 'f' then some '\x0c'
  else if c = 'r' then some '\r'
  else if c = '"' then some '"'
  else if c = '\\' then some '\\'
  else none

/-- Put a character in front of what was read. -/
def prepend (c : Char) (read : Option (List Char × List Char)) :
    Option (List Char × List Char) :=
  read.map fun (text, rest) => (c :: text, rest)

/-- The text up to the closing double quote, and what follows it. -/
def basicText? : List Char → Option (List Char × List Char)
  | [] => none
  | '"' :: rest => some ([], rest)
  | '\\' :: 'u' :: a :: b :: c :: d :: rest =>
      (codePoint? [a, b, c, d]).bind fun code => prepend code (basicText? rest)
  | '\\' :: 'U' :: a :: b :: c :: d :: e :: f :: g :: h :: rest =>
      (codePoint? [a, b, c, d, e, f, g, h]).bind fun code => prepend code (basicText? rest)
  | '\\' :: c :: rest => (escape? c).bind fun code => prepend code (basicText? rest)
  | c :: rest => if isBasicCharacter c then prepend c (basicText? rest) else none

/-- The text up to the closing single quote, and what follows it. -/
def literalText? : List Char → Option (List Char × List Char)
  | [] => none
  | c :: rest =>
      if c = '\'' then some ([], rest)
      else if isLiteralCharacter c then prepend c (literalText? rest)
      else none

/-- Up to two quotes before the closing ones belong to the text. -/
def afterClosing (quote : Char) : List Char → List Char × List Char
  | [] => ([], [])
  | first :: rest =>
      if first = quote then
        match rest with
        | [] => ([quote], [])
        | second :: later =>
            if second = quote then ([quote, quote], later) else ([quote], second :: later)
      else
        ([], first :: rest)

/-- Where reading of text over several lines stands: in the text, behind a backslash
that must be followed by a line end, or behind such a line end. -/
inductive LineState where
  | inText
  | beforeLineEnd
  | afterLineEnd
deriving DecidableEq

/-- The text up to three closing double quotes, and what follows them. -/
def multilineBasicText? : LineState → List Char → Option (List Char × List Char)
  | _, [] => none
  | .beforeLineEnd, '\n' :: rest => multilineBasicText? .afterLineEnd rest
  | .beforeLineEnd, '\r' :: '\n' :: rest => multilineBasicText? .afterLineEnd rest
  | .beforeLineEnd, c :: rest =>
      if isSpace c then multilineBasicText? .beforeLineEnd rest else none
  | .afterLineEnd, '\n' :: rest => multilineBasicText? .afterLineEnd rest
  | .afterLineEnd, '\r' :: '\n' :: rest => multilineBasicText? .afterLineEnd rest
  | .afterLineEnd, ' ' :: rest => multilineBasicText? .afterLineEnd rest
  | .afterLineEnd, '\t' :: rest => multilineBasicText? .afterLineEnd rest
  | _, '"' :: '"' :: '"' :: rest => some (afterClosing '"' rest)
  | _, '"' :: rest => prepend '"' (multilineBasicText? .inText rest)
  | _, '\n' :: rest => prepend '\n' (multilineBasicText? .inText rest)
  | _, '\r' :: '\n' :: rest => prepend '\n' (multilineBasicText? .inText rest)
  | _, '\\' :: 'u' :: a :: b :: c :: d :: rest =>
      (codePoint? [a, b, c, d]).bind fun code =>
        prepend code (multilineBasicText? .inText rest)
  | _, '\\' :: 'U' :: a :: b :: c :: d :: e :: f :: g :: h :: rest =>
      (codePoint? [a, b, c, d, e, f, g, h]).bind fun code =>
        prepend code (multilineBasicText? .inText rest)
  | _, '\\' :: '\n' :: rest => multilineBasicText? .afterLineEnd rest
  | _, '\\' :: '\r' :: '\n' :: rest => multilineBasicText? .afterLineEnd rest
  | _, '\\' :: c :: rest =>
      if isSpace c then
        multilineBasicText? .beforeLineEnd rest
      else
        (escape? c).bind fun code => prepend code (multilineBasicText? .inText rest)
  | _, c :: rest =>
      if isBasicCharacter c then prepend c (multilineBasicText? .inText rest) else none

/-- The text up to three closing single quotes, and what follows them. -/
def multilineLiteralText? : List Char → Option (List Char × List Char)
  | [] => none
  | '\'' :: '\'' :: '\'' :: rest => some (afterClosing '\'' rest)
  | '\n' :: rest => prepend '\n' (multilineLiteralText? rest)
  | '\r' :: '\n' :: rest => prepend '\n' (multilineLiteralText? rest)
  | c :: rest =>
      if isCommentCharacter c then prepend c (multilineLiteralText? rest) else none

/-- The text without a line end at its front. -/
def skipLineEnd : List Char → List Char
  | '\n' :: rest => rest
  | '\r' :: '\n' :: rest => rest
  | text => text

/-- Text in quotes of any kind. -/
def quotedText? : List Char → Option (List Char × List Char)
  | '"' :: '"' :: '"' :: rest => multilineBasicText? .inText (skipLineEnd rest)
  | '"' :: rest => basicText? rest
  | '\'' :: '\'' :: '\'' :: rest => multilineLiteralText? (skipLineEnd rest)
  | '\'' :: rest => literalText? rest
  | _ => none

end Triage.Toml

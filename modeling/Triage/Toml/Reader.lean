import Triage.Toml.Moment
import Triage.Toml.Numeral
import Triage.Toml.QuotedText

/-!
# Reading TOML line by line

A text is read into the statements of its lines.  Keys have parts joined by dots,
arrays may run over several lines, inline tables may not.  Arrays and inline
tables nest fewer than eighty deep, and a key has fewer than eighty parts.
-/

namespace Triage.Toml

open Triage.Text

/-- The number of levels and of key parts that are too many. -/
def nestingLimit : Nat := 80

/-- One part of a key, with or without quotes. -/
def keyPart? : List Char → Option (String × List Char)
  | '"' :: rest => (basicText? rest).map fun (part, rest) => (String.ofList part, rest)
  | '\'' :: rest => (literalText? rest).map fun (part, rest) => (String.ofList part, rest)
  | text =>
      let part := text.takeWhile isKeyCharacter
      if part.isEmpty then none else some (String.ofList part, text.drop part.length)

/-- A key of at most `fuel` parts, with the blanks around its parts. -/
def keyUpTo? : (fuel : Nat) → List Char → Option (List String × List Char)
  | 0, _ => none
  | fuel + 1, text => do
      let (part, rest) ← keyPart? (skipSpaces text)
      match skipSpaces rest with
      | '.' :: later => do
          let (parts, rest) ← keyUpTo? fuel later
          some (part :: parts, rest)
      | rest => some ([part], rest)

/-- A key. -/
def key? (text : List Char) : Option (List String × List Char) :=
  keyUpTo? (nestingLimit - 1) text

/-- A value that holds no other values. -/
def scalar? : List Char → Option (Literal × List Char)
  | 't' :: 'r' :: 'u' :: 'e' :: rest => some (.boolean true, rest)
  | 'f' :: 'a' :: 'l' :: 's' :: 'e' :: rest => some (.boolean false, rest)
  | '"' :: rest =>
      (quotedText? ('"' :: rest)).map fun (text, rest) => (.text (String.ofList text), rest)
  | '\'' :: rest =>
      (quotedText? ('\'' :: rest)).map fun (text, rest) => (.text (String.ofList text), rest)
  | text =>
      if startsLikeDate text then
        (dateAndTime? text).map fun (moment, rest) => (.moment (String.ofList moment), rest)
      else if startsLikeTime text then
        (timeOfDay? text).map fun (moment, rest) => (.moment (String.ofList moment), rest)
      else
        number? text

mutual

/-- A value, with the levels that it may still open. -/
def literal? : (fuel : Nat) → (depth : Nat) → List Char → Option (Literal × List Char)
  | 0, _, _ => none
  | fuel + 1, depth, '[' :: rest =>
      if depth = 0 then none
      else (items? fuel (depth - 1) rest).map fun (items, rest) => (.array items, rest)
  | fuel + 1, depth, '{' :: rest =>
      if depth = 0 then none
      else
        match skipSpaces rest with
        | '}' :: later => some (.inlineTable [], later)
        | _ =>
            (assignments? fuel (depth - 1) rest).map fun (assignments, rest) =>
              (.inlineTable assignments, rest)
  | _ + 1, _, text => scalar? text

/-- The items of an array up to its closing bracket; a comma may follow the last. -/
def items? : (fuel : Nat) → (depth : Nat) → List Char → Option (List Literal × List Char)
  | 0, _, _ => none
  | fuel + 1, depth, text => do
      match ← skipTrivia? false text with
      | ']' :: rest => some ([], rest)
      | text => do
          let (item, rest) ← literal? fuel depth text
          match ← skipTrivia? false rest with
          | ']' :: rest => some ([item], rest)
          | ',' :: rest => do
              let (items, rest) ← items? fuel depth rest
              some (item :: items, rest)
          | _ => none

/-- The assignments of an inline table up to its closing brace. -/
def assignments? : (fuel : Nat) → (depth : Nat) → List Char →
    Option (List (List String × Literal) × List Char)
  | 0, _, _ => none
  | fuel + 1, depth, text => do
      let (key, rest) ← key? text
      let rest ← symbol? '=' rest
      let (value, rest) ← literal? fuel depth (skipSpaces rest)
      match skipSpaces rest with
      | '}' :: rest => some ([(key, value)], rest)
      | ',' :: rest => do
          let (assignments, rest) ← assignments? fuel depth rest
          some ((key, value) :: assignments, rest)
      | _ => none

end

/-- A value at the start of a text.  Every step takes a character, or opens an array
or a table that has taken one. -/
def value? (text : List Char) : Option (Literal × List Char) :=
  literal? (2 * text.length + 2) (nestingLimit - 1) text

/-- The head of a table, behind its first bracket. -/
def head? : List Char → Option (Statement × List Char)
  | '[' :: rest => do
      let (key, rest) ← key? rest
      let rest ← symbol? ']' rest
      let rest ← symbol? ']' rest
      let rest ← lineEnd? rest
      some (.arrayHead key, rest)
  | text => do
      let (key, rest) ← key? text
      let rest ← symbol? ']' rest
      let rest ← lineEnd? rest
      some (.tableHead key, rest)

/-- An assignment on a line of its own. -/
def assignment? (text : List Char) : Option (Statement × List Char) := do
  let (key, rest) ← key? text
  let rest ← symbol? '=' rest
  let (value, rest) ← value? (skipSpaces rest)
  let rest ← lineEnd? rest
  some (.assign key value, rest)

/-- One line, which may hold no statement. -/
def line? (text : List Char) : Option (Option Statement × List Char) :=
  match skipSpaces text with
  | [] => some (none, [])
  | '[' :: rest => (head? rest).map fun (statement, rest) => (some statement, rest)
  | c :: rest =>
      if c = '#' ∨ c = '\n' ∨ c = '\r' then
        (lineEnd? (c :: rest)).map (none, ·)
      else
        (assignment? (c :: rest)).map fun (statement, rest) => (some statement, rest)

/-- The statements of a text of at most `fuel` lines. -/
def statementsUpTo? : (fuel : Nat) → List Char → Option (List Statement)
  | _, [] => some []
  | 0, _ :: _ => none
  | fuel + 1, c :: text => do
      let (statement, rest) ← line? (c :: text)
      let later ← statementsUpTo? fuel rest
      some (statement.toList ++ later)

/-- The statements of a text.  Every line takes a character. -/
def statements? (text : List Char) : Option (List Statement) :=
  statementsUpTo? text.length text

end Triage.Toml

import Triage.Config.Tree
import Triage.Text.Scan

/-!
# Paths into trees of settings

A key such as `a.b[2]` leads into tables and lists.  On the way, tables and lists
are made where something else stands, and lists are filled up with nothing.  A
negative index counts from the end of a list; one that lies before its start has
no place.  A key of any other form is the name of one entry.  Case does not matter:
a key is put into lower case before it is read.
-/

namespace Triage.Config

open Triage.Text

/-- One step from a setting to a setting inside it. -/
inductive Step where
  | name (name : String)
  | item (index : Int)
deriving DecidableEq, Repr

/-- A name of the outermost table, and the steps from there. -/
structure KeyPath where
  first : String
  steps : List Step
deriving DecidableEq, Repr

namespace KeyPath

/-- The characters of names in paths. -/
def isNameCharacter (c : Char) : Bool := c.isAlphanum || c = ' ' || c = '_' || c = '-'

/-- A name at the front of a text. -/
def name? (text : List Char) : Option (String × List Char) :=
  let found := text.takeWhile isNameCharacter
  if found.isEmpty then none else some (String.ofList found, text.drop found.length)

/-- The blanks that may stand around an index. -/
def skipIndexBlanks (text : List Char) : List Char :=
  text.dropWhile fun c => c = ' ' || c = '\t'

/-- An index of 64 bits behind its bracket. -/
def index? (text : List Char) : Option (Int × List Char) := do
  let text := skipIndexBlanks text
  let (negative, text) :=
    match text with
    | '-' :: rest => (true, rest)
    | text => (false, text)
  let (magnitude, rest) ← number? 1 text.length text
  let index : Int := if negative then -magnitude else magnitude
  let rest ← symbol? ']' (skipIndexBlanks rest)
  if -9223372036854775808 ≤ index ∧ index ≤ 9223372036854775807 then
    some (index, rest)
  else
    none

/-- The steps that a text writes, at most `fuel` of them. -/
def stepsUpTo? : (fuel : Nat) → List Char → Option (List Step)
  | _, [] => some []
  | fuel + 1, '.' :: text => do
      let (name, rest) ← name? text
      let later ← stepsUpTo? fuel rest
      some (.name name :: later)
  | fuel + 1, '[' :: text => do
      let (index, rest) ← index? text
      let later ← stepsUpTo? fuel rest
      some (.item index :: later)
  | _, _ => none

/-- The path that a text writes. -/
def read? (text : List Char) : Option KeyPath := do
  let (first, rest) ← name? text
  let steps ← stepsUpTo? rest.length rest
  some ⟨first, steps⟩

/-- The path of a key, in lower case. -/
def ofKey (key : String) : KeyPath :=
  let key := lowercase key
  (read? key.toList).getD ⟨key, []⟩

end KeyPath

/-- Lists end before this index.  The bound stands for memory: a list is filled up to its
last index as long as there is memory for it, and where that ends is not known here. -/
def itemLimit : Nat := 16777216

/-- The place of an index in a list of some length. -/
def position? (index : Int) (length : Nat) : Option Nat :=
  let place := if index < 0 then length + index else index
  if 0 ≤ place ∧ place < itemLimit then some place.toNat else none

namespace Setting

/-- The items of a list, filled up with nothing until there is one at a place. -/
def extended (items : List Setting) (place : Nat) : List Setting :=
  items ++ List.replicate (place + 1 - items.length) nothing

/-- Put a value at the end of some steps below a setting. -/
def placed? (value : Setting) : List Step → Option Setting → Option Setting
  | [], previous => some (laidOver value previous)
  | .name name :: later, previous =>
      let (origin, entries) := (previous.getD nothing).asTable
      (placed? value later (Entries.get? entries name)).map fun inner =>
        .table origin (Entries.put entries name inner)
  | .item index :: later, previous =>
      let (origin, items) := (previous.getD nothing).asList
      (position? index items.length).bind fun place =>
        let items := extended items place
        (if later.isEmpty then some value else placed? value later items[place]?).map
          fun inner => .list origin (items.set place inner)

/-- Put a value at the end of a path; none when an index has no place. -/
def put? (setting : Setting) (path : KeyPath) (value : Setting) : Option Setting :=
  placed? value (.name path.first :: path.steps) (some setting)

/-- Put values under keys, one after the other.  The later of two keys for the same place
wins; which one that is depends on the order in which the keys are taken. -/
def putAll? (setting : Setting) : List (String × Setting) → Option Setting
  | [] => some setting
  | (key, value) :: later => do
      let setting ← setting.put? (KeyPath.ofKey key) value
      putAll? setting later

end Setting

end Triage.Config

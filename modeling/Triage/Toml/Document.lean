import Triage.Entries
import Triage.Toml.MomentTable
import Triage.Toml.Reader

/-!
# Building TOML documents

Statements are entered into a tree.  Each table remembers how it came about: by a
head of its own, on the way to the head of another table, or by a key of several
parts.  No key is assigned twice, no table has two heads, a head does not reopen a
table made by keys, and keys do not reach into a table with a head of its own.
-/

namespace Triage.Toml

/-- How a table came about. -/
inductive Definition where
  | head
  | onTheWay
  | key
deriving DecidableEq, Repr

/-- A tree under construction. -/
inductive Node where
  | leaf (value : Value)
  | table (definition : Definition) (entries : List (String × Node))
  | tables (elements : List (List (String × Node)))

/-- Change the table at the end of a path, and make the tables on the way to it.  Of an
array of tables, the last one is entered. -/
def change? (byKey : Bool) (change : Definition → Entries Node → Option (Entries Node)) :
    (path : List String) → Definition → Entries Node → Option (Entries Node)
  | [], definition, entries => change definition entries
  | key :: path, _, entries =>
      match Entries.get? entries key with
      | none =>
          let definition := if byKey then Definition.key else .onTheWay
          (change? byKey change path definition []).map fun inner =>
            Entries.put entries key (.table definition inner)
      | some (.leaf _) => none
      | some (.table definition inner) =>
          if byKey ∧ definition = .head then
            none
          else
            (change? byKey change path definition inner).map fun inner =>
              Entries.put entries key (.table definition inner)
      | some (.tables elements) =>
          match elements.reverse with
          | [] => none
          | last :: earlier =>
              (change? byKey change path .head last).map fun inner =>
                Entries.put entries key (.tables (earlier.reverse ++ [inner]))

/-- Assign a value to a key of some parts.  Only keys of several parts reach the tables
that such keys made. -/
def assign? (entries : Entries Node) (key : List String) (value : Value) :
    Option (Entries Node) :=
  match key.reverse with
  | [] => none
  | last :: reversedPath =>
      let path := reversedPath.reverse
      change? true
        (fun definition entries =>
          if (definition = .key ↔ path ≠ []) ∧ (Entries.get? entries last).isNone then
            some (Entries.put entries last (.leaf value))
          else
            none)
        path .head entries

mutual

/-- The value of a finished tree. -/
def Node.value : Node → Value
  | .leaf value => value
  | .table _ entries => .table (entryValues entries)
  | .tables elements => .array (tableValues elements)

/-- The values of finished entries. -/
def entryValues : List (String × Node) → List (String × Value)
  | [] => []
  | (key, node) :: later => (key, node.value) :: entryValues later

/-- The values of an array of tables. -/
def tableValues : List (List (String × Node)) → List Value
  | [] => []
  | entries :: later => .table (entryValues entries) :: tableValues later

end

mutual

/-- The value that is written; the keys of inline tables obey the rules of keys. -/
def Literal.value? : Literal → Option Value
  | .text value => some (.text value)
  | .integer value => some (.integer value)
  | .real value => some (.real value)
  | .boolean value => some (.boolean value)
  | .moment text => some (.moment text)
  | .array items => (itemValues? items).map .array
  | .inlineTable assignments =>
      (assigned? [] assignments).map fun entries => .table (entryValues entries)

/-- The values of the items of an array. -/
def itemValues? : List Literal → Option (List Value)
  | [] => some []
  | item :: later => do
      let value ← item.value?
      let values ← itemValues? later
      some (value :: values)

/-- Entries with some more assignments, one after the other. -/
def assigned? (entries : Entries Node) :
    List (List String × Literal) → Option (Entries Node)
  | [] => some entries
  | (key, literal) :: later => do
      let value ← literal.value?
      let entries ← assign? entries key value
      assigned? entries later

end

/-- Open the table of a head: a new one, or one that was only passed through. -/
def openTable? (entries : Entries Node) (key : String) : Option (Entries Node) :=
  match Entries.get? entries key with
  | none => some []
  | some (.table .onTheWay inner) => some inner
  | _ => none

/-- Enter the table of a head with its assignments.  It comes behind the entries that are
there, even when it was passed through before. -/
def enterTable? (entries : Entries Node) (key : List String)
    (assignments : List (List String × Literal)) : Option (Entries Node) :=
  match key.reverse with
  | [] => none
  | last :: reversedPath =>
      change? false
        (fun _ entries => do
          let inner ← openTable? entries last
          let inner ← assigned? inner assignments
          some (Entries.put (Entries.erase entries last) last (.table .head inner)))
        reversedPath.reverse .head entries

/-- Enter one more table of an array with its assignments. -/
def enterElement? (entries : Entries Node) (key : List String)
    (assignments : List (List String × Literal)) : Option (Entries Node) :=
  match key.reverse with
  | [] => none
  | last :: reversedPath =>
      change? false
        (fun _ entries => do
          let elements ←
            match Entries.get? entries last with
            | none => some []
            | some (.tables elements) => some elements
            | _ => none
          let inner ← assigned? [] assignments
          some (Entries.put entries last (.tables (elements ++ [inner]))))
        reversedPath.reverse .head entries

/-- The assignments in front of the next head. -/
def leadingAssignments : List Statement → List (List String × Literal)
  | .assign key literal :: later => (key, literal) :: leadingAssignments later
  | _ => []

/-- Enter the tables of a document, one head after the other. -/
def sections? (entries : Entries Node) : List Statement → Option (Entries Node)
  | [] => some entries
  | .assign _ _ :: later => sections? entries later
  | .tableHead key :: later => do
      let entries ← enterTable? entries key (leadingAssignments later)
      sections? entries later
  | .arrayHead key :: later => do
      let entries ← enterElement? entries key (leadingAssignments later)
      sections? entries later

/-- The entries of a document. -/
def entries? (statements : List Statement) : Option (Entries Node) := do
  let root ← assigned? [] (leadingAssignments statements)
  sections? root statements

/-- The text without a byte-order mark at its front. -/
def withoutMark : List Char → List Char
  | '\uFEFF' :: rest => rest
  | text => text

/-- The table that a text holds. -/
def read? (text : String) : Option (List (String × Value)) := do
  let statements ← statements? (withoutMark text.toList)
  let entries ← entries? statements
  match ← (Value.table (entryValues entries)).withMoments? with
  | .table entries => some entries
  | _ => none

end Triage.Toml

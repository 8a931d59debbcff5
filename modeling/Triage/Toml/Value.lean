import Triage.Number.Binary64

/-!
# Values of TOML documents

A document is a table.  Dates and times are kept as their normal text.
-/

namespace Triage.Toml

open Triage.Number

/-- A value of a finished document. -/
inductive Value where
  | text (value : String)
  | integer (value : Int)
  | real (value : Binary64)
  | boolean (value : Bool)
  | moment (text : String)
  | array (items : List Value)
  | table (entries : List (String × Value))

/-- A value as it is written: inline tables still list their assignments, whose keys
may have several parts. -/
inductive Literal where
  | text (value : String)
  | integer (value : Int)
  | real (value : Binary64)
  | boolean (value : Bool)
  | moment (text : String)
  | array (items : List Literal)
  | inlineTable (assignments : List (List String × Literal))

/-- A line of a document: an assignment, or the head of a table or of one more table of
an array. -/
inductive Statement where
  | assign (key : List String) (value : Literal)
  | tableHead (key : List String)
  | arrayHead (key : List String)

end Triage.Toml

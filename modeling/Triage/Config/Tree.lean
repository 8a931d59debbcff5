import Triage.Entries
import Triage.Text.Lowercase
import Triage.Toml.Value

/-!
# Trees of settings

Settings of several origins are laid over each other in one tree.  Names do not
depend on case, so the tree holds them in lower case.  A table that is laid over
a table is merged entry by entry; everything else replaces what was there.
-/

namespace Triage.Config

open Triage.Number Triage.Text

/-- Where a setting was found. -/
inductive Origin where
  | file (name : String)
  | environment
deriving DecidableEq, Repr

/-- The origin in messages. -/
def Origin.text : Origin → String
  | file name => name
  | environment => "the environment"

/-- A setting that holds no other settings. -/
inductive Scalar where
  | unit
  | boolean (value : Bool)
  | integer (value : Int)
  | real (value : Binary64)
  | text (value : String)
deriving DecidableEq

/-- A setting, with its origin when that is known. -/
inductive Setting where
  | scalar (origin : Option Origin) (value : Scalar)
  | list (origin : Option Origin) (items : List Setting)
  | table (origin : Option Origin) (entries : List (String × Setting))

namespace Setting

/-- Nothing, of no origin. -/
def nothing : Setting := .scalar none .unit

/-- A table without entries, of no origin. -/
def emptyTable : Setting := .table none []

instance : Inhabited Setting := ⟨nothing⟩

/-- The setting as a table: anything else gives way to an empty one. -/
def asTable : Setting → Option Origin × Entries Setting
  | .table origin entries => (origin, entries)
  | _ => (none, [])

/-- The setting as a list: anything else gives way to an empty one. -/
def asList : Setting → Option Origin × List Setting
  | .list origin items => (origin, items)
  | _ => (none, [])

/-- Change one entry of the setting as a table; the name is put into lower case. -/
def changeEntry (setting : Setting) (name : String) (change : Option Setting → Setting) :
    Setting :=
  let (origin, entries) := setting.asTable
  let key := lowercase name
  .table origin (Entries.put entries key (change (Entries.get? entries key)))

mutual

/-- A value laid over what was there before: the entries of a table go into the table
that was there, or into whatever else was there if the table is empty. -/
def laidOver (value : Setting) (previous : Option Setting) : Setting :=
  match value with
  | .table _ entries => entriesLaidOver entries (previous.getD emptyTable)
  | .scalar origin value => .scalar origin value
  | .list origin items => .list origin items

/-- Entries laid over a setting, one after the other.  The later of two names that differ
in case only wins; which one that is depends on the order in which they are taken. -/
def entriesLaidOver : List (String × Setting) → Setting → Setting
  | [], setting => setting
  | (name, value) :: later, setting =>
      entriesLaidOver later (setting.changeEntry name fun previous => laidOver value previous)

end

mutual

/-- A TOML value of some origin. -/
def ofToml (origin : Option Origin) : Toml.Value → Setting
  | .text value => .scalar origin (.text value)
  | .integer value => .scalar origin (.integer value)
  | .real value => .scalar origin (.real value)
  | .boolean value => .scalar origin (.boolean value)
  | .moment text => .scalar origin (.text text)
  | .array items => .list origin (itemsOfToml origin items)
  | .table entries => .table origin (entriesOfToml origin entries)

/-- The items of a TOML array. -/
def itemsOfToml (origin : Option Origin) : List Toml.Value → List Setting
  | [] => []
  | item :: later => ofToml origin item :: itemsOfToml origin later

/-- The entries of a TOML table. -/
def entriesOfToml (origin : Option Origin) : List (String × Toml.Value) → Entries Setting
  | [] => []
  | (name, value) :: later => (name, ofToml origin value) :: entriesOfToml origin later

end

end Setting

end Triage.Config

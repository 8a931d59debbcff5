import Triage.Config.Load
import Triage.Proofs.Config.Tree
import Triage.Proofs.Toml.PlainDocument

/-!
# Settings of plain documents

The tables of a plain document become a tree of settings with the same tables, when
their names are in lower case and no paths.  A group of keys is written as such a table,
and the tree holds the values of the keys that are listed.
-/

namespace Triage.Toml

open Triage.Config

/-! ## Settings of values and tables -/

/-- The setting that a plain value becomes. -/
def PlainValue.setting (origin : Option Origin) : PlainValue → Setting
  | integer value => .scalar origin (.integer value)
  | boolean value => .scalar origin (.boolean value)
  | integers values => .list origin (values.map fun value => .scalar origin (.integer value))

theorem PlainValue.ofToml_value (origin : Option Origin) (value : PlainValue) :
    Setting.ofToml origin value.value = value.setting origin := by
  cases value with
  | integer value => rfl
  | boolean value => rfl
  | integers values =>
      rw [PlainValue.value, Setting.ofToml, Setting.itemsOfToml_eq_map, List.map_map]
      rfl

theorem PlainValue.isLeaf_setting (origin : Option Origin) (value : PlainValue) :
    (value.setting origin).IsLeaf := by
  cases value <;> trivial

/-- The settings of the entries of a table. -/
def PlainTable.settings (origin : Option Origin) (table : PlainTable) : Entries Setting :=
  table.entries.map fun (key, value) => (key.name, value.setting origin)

theorem PlainTable.entriesOfToml_tables (origin : Option Origin) (tables : List PlainTable) :
    Setting.entriesOfToml origin (tables.map PlainTable.value) =
      tables.map fun table => (table.key.name, .table origin (table.settings origin)) := by
  rw [Setting.entriesOfToml_eq_map, List.map_map]
  apply List.map_congr_left
  intro table _
  simp only [Function.comp_apply, PlainTable.value, PlainTable.settings, Setting.ofToml,
    Setting.entriesOfToml_eq_map, List.map_map]
  congr 2
  apply List.map_congr_left
  intro entry _
  exact congrArg (Prod.mk entry.1.name) (entry.2.ofToml_value origin)

end Triage.Toml

namespace Triage.Config

open Triage.Text Triage.Toml

/-! ## Trees of documents -/

/-- The table is read without loss and becomes a table of settings as it is. -/
structure IsLoadable (table : PlainTable) : Prop where
  fits : table.Fits
  distinct : table.IsDistinct
  lower : ∀ entry ∈ table.entries, lowercase entry.1.name = entry.1.name
  isName : KeyPath.ofKey table.key.name = ⟨table.key.name, []⟩

theorem IsLoadable.laidOver_settings {table : PlainTable} (loadable : IsLoadable table)
    (origin : Option Origin) :
    Setting.laidOver (.table origin (table.settings origin)) none =
      .table none (table.settings origin) := by
  apply Setting.laidOver_leaves_none
  · intro entry isIn
    rcases List.mem_map.mp isIn with ⟨written, -, rfl⟩
    exact written.2.isLeaf_setting origin
  · intro entry isIn
    rcases List.mem_map.mp isIn with ⟨written, isWritten, rfl⟩
    exact loadable.lower written isWritten
  · rw [PlainTable.settings, List.map_map]
    exact loadable.distinct

/-- The tree of settings that tables become. -/
def tableTree (origin : Option Origin) (tables : List PlainTable) : Entries Setting :=
  tables.map fun table => (table.key.name, .table none (table.settings origin))

/-- The settings of a document of loadable tables make the tree of these tables. -/
theorem exists_documentSettings (origin : Option Origin) (layout : Layout)
    {tables : List PlainTable} (loadable : ∀ table ∈ tables, IsLoadable table)
    (distinct : (tables.map fun table => table.key.name).Nodup) :
    ∃ settings, documentSettings origin (documentText layout tables) = .ok settings ∧
      Setting.emptyTable.putAll? settings = some (.table none (tableTree origin tables)) := by
  refine ⟨tables.map fun table => (table.key.name, .table origin (table.settings origin)),
    ?_, ?_⟩
  · rw [documentSettings, read?_documentText layout (fun table isIn => (loadable table isIn).fits)
      distinct (fun table isIn => (loadable table isIn).distinct)]
    exact congrArg Except.ok (PlainTable.entriesOfToml_tables origin tables)
  · rw [Setting.emptyTable, Setting.putAll?_of_newNames]
    · rw [List.nil_append, List.map_map, tableTree]
      congr 2
      apply List.map_congr_left
      intro table isIn
      exact congrArg (Prod.mk table.key.name) ((loadable table isIn).laidOver_settings origin)
    · intro setting isIn
      rcases List.mem_map.mp isIn with ⟨table, isTable, rfl⟩
      exact (loadable table isTable).isName
    · rw [List.map_nil, List.nil_append, List.map_map]
      exact distinct

/-! ## Groups of keys -/

/-- The keys of a table: how the table and they are written, and which value is chosen for
each of them. -/
structure KeyGroup (Key Choices : Type) where
  head : BareKey
  bare : Key → BareKey
  value : Choices → Key → PlainValue
  bare_injective : ∀ first second, (bare first).name = (bare second).name → first = second
  lowercase_bare : ∀ key, lowercase (bare key).name = (bare key).name
  ofKey_head : KeyPath.ofKey head.name = ⟨head.name, []⟩

namespace KeyGroup

variable {Key Choices : Type} {group : KeyGroup Key Choices} {keys : List Key}
  {choices : Choices}

/-- The table that lists the values of some keys. -/
def table (group : KeyGroup Key Choices) (keys : List Key) (choices : Choices) : PlainTable where
  key := group.head
  entries := keys.map fun key => (group.bare key, group.value choices key)

theorem isLoadable_table (nodup : keys.Nodup)
    (fits : ∀ key ∈ keys, (group.value choices key).Fits) :
    IsLoadable (group.table keys choices) where
  fits := by
    intro entry isIn
    rcases List.mem_map.mp isIn with ⟨key, isListed, rfl⟩
    exact fits key isListed
  distinct := by
    rw [PlainTable.IsDistinct, table, List.map_map]
    refine List.Pairwise.map _ ?_ nodup
    intro first second different same
    exact different (group.bare_injective first second same)
  lower := by
    intro entry isIn
    rcases List.mem_map.mp isIn with ⟨key, -, rfl⟩
    exact group.lowercase_bare key
  isName := group.ofKey_head

/-- The settings of a listing are there for the listed keys only. -/
theorem get?_settings [DecidableEq Key] (origin : Option Origin) (key : Key) :
    Entries.get? ((group.table keys choices).settings origin) (group.bare key).name =
      if key ∈ keys then some ((group.value choices key).setting origin) else none := by
  rw [PlainTable.settings, table, List.map_map]
  exact Entries.get?_map group.bare_injective _ keys key

end KeyGroup

end Triage.Config

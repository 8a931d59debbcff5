import Triage.Config.KeyPath

/-!
# Settings laid over an empty tree

Settings under new names come into a tree one behind the other, and so do the entries of
a table, whose names are put into lower case.  Tables of leaves with names in lower case
come into a tree as they are.
-/

namespace Triage.Config.Setting

open Triage.Text

variable {origin tableOrigin : Option Origin} {done entries : Entries Setting}

/-! ## Values of documents -/

theorem entriesOfToml_eq_map (origin : Option Origin) (entries : Entries Toml.Value) :
    entriesOfToml origin entries =
      entries.map fun (name, value) => (name, ofToml origin value) := by
  induction entries with
  | nil => rfl
  | cons entry later ih =>
      rw [entriesOfToml, ih]
      rfl

theorem itemsOfToml_eq_map (origin : Option Origin) (items : List Toml.Value) :
    itemsOfToml origin items = items.map (ofToml origin) := by
  induction items with
  | nil => rfl
  | cons item later ih =>
      rw [itemsOfToml, ih]
      rfl

/-! ## Settings over an empty tree -/

/-- A setting that takes the place of whatever was there. -/
def IsLeaf : Setting → Prop
  | .scalar _ _ => True
  | .list _ _ => True
  | .table _ _ => False

theorem laidOver_of_isLeaf {value : Setting} (leaf : value.IsLeaf) (previous : Option Setting) :
    laidOver value previous = value := by
  cases value with
  | scalar origin value => rfl
  | list origin items => rfl
  | table origin entries => contradiction

/-- Entries with new names come behind the entries that are there, under their names in
lower case. -/
theorem entriesLaidOver_of_distinct (done : Entries Setting)
    (distinct : (done.map Prod.fst ++ entries.map fun entry => lowercase entry.1).Nodup) :
    entriesLaidOver entries (.table origin done) = .table origin
      (done ++ entries.map fun (name, value) => (lowercase name, laidOver value none)) := by
  induction entries generalizing done with
  | nil => rw [entriesLaidOver, List.map_nil, List.append_nil]
  | cons entry later ih =>
      rcases entry with ⟨name, value⟩
      rcases Entries.new_of_nodup distinct (laidOver value none) with ⟨new, distinctLater⟩
      have absent := Entries.get?_eq_none_iff.mpr new
      have laid := ih _ distinctLater
      rw [List.append_assoc] at laid
      rw [entriesLaidOver, changeEntry]
      simp only [asTable, absent, Entries.put_of_get?_eq_none (laidOver value none) absent]
      exact laid

/-- A table with distinct names that is laid over nothing has its entries laid over
nothing. -/
theorem laidOver_table_none
    (distinct : (entries.map fun entry => lowercase entry.1).Nodup) :
    laidOver (.table origin entries) none =
      .table none (entries.map fun (name, value) => (lowercase name, laidOver value none)) := by
  rw [laidOver, Option.getD_none, emptyTable]
  exact entriesLaidOver_of_distinct [] distinct

/-- A table of leaves that is laid over nothing keeps its entries. -/
theorem laidOver_leaves_none (leaves : ∀ entry ∈ entries, entry.2.IsLeaf)
    (lower : ∀ entry ∈ entries, lowercase entry.1 = entry.1)
    (distinct : (entries.map Prod.fst).Nodup) :
    laidOver (.table origin entries) none = .table none entries := by
  rw [laidOver_table_none (List.map_congr_left lower ▸ distinct)]
  congr 1
  rw [List.map_congr_left (g := id), List.map_id]
  intro entry isIn
  exact Prod.ext (lower entry isIn) (laidOver_of_isLeaf (leaves entry isIn) none)

/-- Entries that are laid over a table make a table. -/
theorem exists_table_of_entriesLaidOver (inner : List (String × Setting))
    (origin : Option Origin) (entries : Entries Setting) :
    ∃ after, entriesLaidOver inner (.table origin entries) = .table origin after := by
  induction inner generalizing entries with
  | nil => exact ⟨entries, rfl⟩
  | cons entry later ih => exact ih _

/-! ## Settings under new names -/

theorem putAll?_append (setting : Setting) (first second : List (String × Setting)) :
    setting.putAll? (first ++ second) =
      (setting.putAll? first).bind fun middle => middle.putAll? second := by
  induction first generalizing setting with
  | nil => rfl
  | cons entry later ih =>
      rw [List.cons_append, putAll?, putAll?]
      cases setting.put? (KeyPath.ofKey entry.1) entry.2 with
      | none => rfl
      | some middle => exact ih middle

/-- What a setting makes of nothing at the end of its path comes behind the entries that are
there, under the first name of the path. -/
theorem put?_of_new {path : KeyPath} {value made : Setting} (new : path.first ∉ done.map Prod.fst)
    (isMade : placed? value path.steps none = some made) :
    (Setting.table origin done).put? path value =
      some (.table origin (done ++ [(path.first, made)])) := by
  have absent := Entries.get?_eq_none_iff.mpr new
  rw [put?, placed?]
  simp only [Option.getD_some, asTable, absent, isMade, Option.map_some]
  rw [Entries.put_of_get?_eq_none _ absent]

/-- Settings whose paths start with new names come one behind the other. -/
theorem putAll?_of_new {settings : List (String × Setting)} (make : String → Setting → Setting)
    (isMade : ∀ setting ∈ settings,
      placed? setting.2 (KeyPath.ofKey setting.1).steps none = some (make setting.1 setting.2))
    (distinct : (done.map Prod.fst ++
      settings.map fun setting => (KeyPath.ofKey setting.1).first).Nodup) :
    (Setting.table origin done).putAll? settings = some (.table origin
      (done ++ settings.map fun (key, value) => ((KeyPath.ofKey key).first, make key value))) := by
  induction settings generalizing done with
  | nil => rw [putAll?, List.map_nil, List.append_nil]
  | cons setting later ih =>
      rcases setting with ⟨key, value⟩
      obtain ⟨isMade, isMadeLater⟩ := List.forall_mem_cons.mp isMade
      rcases Entries.new_of_nodup distinct (make key value) with ⟨new, distinctLater⟩
      have put := ih isMadeLater distinctLater
      rw [List.append_assoc] at put
      rw [putAll?, put?_of_new new isMade]
      exact put

/-- Settings under new keys that are names come one behind the other. -/
theorem putAll?_of_newNames {settings : List (String × Setting)}
    (isName : ∀ setting ∈ settings, KeyPath.ofKey setting.1 = ⟨setting.1, []⟩)
    (distinct : (done.map Prod.fst ++ settings.map Prod.fst).Nodup) :
    (Setting.table origin done).putAll? settings =
      some (.table origin
        (done ++ settings.map fun (name, value) => (name, laidOver value none))) := by
  have first (setting : String × Setting) (isIn : setting ∈ settings) :
      (KeyPath.ofKey setting.1).first = setting.1 := by
    rw [isName setting isIn]
  rw [putAll?_of_new fun _ value => laidOver value none]
  · congr 3
    apply List.map_congr_left
    intro setting isIn
    exact Prod.ext (first setting isIn) rfl
  · intro setting isIn
    rw [isName setting isIn]
    rfl
  · rwa [List.map_congr_left first]

end Triage.Config.Setting

import Triage.Proofs.Config.Agreement
import Triage.Proofs.Config.Overriding
import Triage.Proofs.Config.Usability

/-!
# Reading trees before they are checked

A configuration is read from a tree of settings first and checked then.  What is read from
a tree are the entries of its two groups, as long as the groups are tables or missing, and
it does not depend on where the settings of the tree were found.
-/

namespace Triage.Config

open Triage.Text

variable {origin : Option Origin} {entries before after : Entries Setting} {config : Config}
  {text : String}

/-! ## Reading without checking -/

/-- The configuration that settings make, whether or not it makes sense as a whole. -/
def decodedSettings (settings : List (String × Setting)) : Loaded Config :=
  match Setting.emptyTable.putAll? settings with
  | none => .error .noPlace
  | some tree => (ofEntries tree.asTable.2).mapError LoadError.unreadable

/-- The configuration that a document holds, whether or not it makes sense as a whole. -/
def decodedText (text : String) : Loaded Config :=
  documentSettings none text >>= decodedSettings

theorem ofSettings_eq (settings : List (String × Setting)) :
    ofSettings settings = decodedSettings settings >>= checked := by
  unfold ofSettings decodedSettings
  cases Setting.emptyTable.putAll? settings <;> rfl

/-- Checking is the last step of loading. -/
theorem ofText_eq (text : String) : ofText text = decodedText text >>= checked := by
  rw [ofText, decodedText]
  cases documentSettings none text with
  | error problem => rfl
  | ok settings => exact ofSettings_eq settings

theorem decodedText_of_ofText (loaded : ofText text = .ok config) :
    decodedText text = .ok config := by
  rw [ofText_eq] at loaded
  obtain ⟨decoded, isDecoded, isChecked⟩ := exists_of_bind_eq_ok loaded
  unfold checked at isChecked
  split at isChecked
  · contradiction
  · cases isChecked
    exact isDecoded

/-! ## Trees -/

namespace Setting

/-- A table that settings are put into stays a table. -/
theorem exists_table_of_putAll? {settings : List (String × Setting)} {tree : Setting}
    (isPut : (Setting.table origin entries).putAll? settings = some tree) :
    ∃ after, tree = .table origin after := by
  induction settings generalizing entries with
  | nil => exact ⟨entries, (Option.some.inj isPut).symm⟩
  | cons setting later ih =>
      obtain ⟨inner, isInner, isPutLater⟩ := Option.bind_eq_some_iff.mp isPut
      obtain ⟨value, -, rfl⟩ := Option.map_eq_some_iff.mp isInner
      exact ih isPutLater

end Setting

/-- The tree of a document is the same wherever the document was found. -/
theorem exists_tree_of_origin {values : Entries Toml.Value}
    (isTree : Setting.emptyTable.putAll? (Setting.entriesOfToml none values) =
      some (.table none entries)) (origin : Option Origin) :
    ∃ found, Setting.emptyTable.putAll? (Setting.entriesOfToml origin values) =
        some (.table none found) ∧ Setting.entriesWithoutOrigin found = entries := by
  have same := Setting.putAll?_withoutOrigin Setting.emptyTable
    (Setting.entriesOfToml origin values)
  rw [← Setting.entriesWithoutOrigin_eq_mapValues, Setting.withoutOrigin_entriesOfToml] at same
  obtain ⟨tree, isFound, isBare⟩ := Option.map_eq_some_iff.mp (same.symm.trans isTree)
  obtain ⟨found, rfl⟩ := Setting.exists_table_of_putAll? isFound
  exact ⟨found, isFound, (Setting.table.inj isBare).2⟩

/-- A file whose text is decoded has a tree from which the same configuration is read; the
tree of the text is the tree of the file without its origins. -/
theorem exists_fileTree (decoded : decodedText text = .ok config) (name : String) :
    ∃ values before, Toml.read? text = some values ∧
      Setting.emptyTable.putAll? (Setting.entriesOfToml (some (.file name)) values) =
        some (.table none before) ∧
      ofEntries before = .ok config ∧
      Setting.emptyTable.putAll? (Setting.entriesOfToml none values) =
        some (.table none (Setting.entriesWithoutOrigin before)) := by
  obtain ⟨settings, isRead, isDecoded⟩ := exists_of_bind_eq_ok decoded
  obtain ⟨values, isDocument, rfl⟩ := exists_entries_of_documentSettings isRead
  unfold decodedSettings at isDecoded
  split at isDecoded
  · contradiction
  · rename_i tree isTree
    obtain ⟨bare, rfl⟩ := Setting.exists_table_of_putAll? isTree
    obtain ⟨before, isFileTree, rfl⟩ := exists_tree_of_origin isTree (some (.file name))
    have wasRead : ofEntries (Setting.entriesWithoutOrigin before) = .ok config :=
      mapError_eq_ok_iff.mp isDecoded
    rw [ofEntries_withoutOrigin, mapError_eq_ok_iff] at wasRead
    exact ⟨values, before, isDocument, isFileTree, wasRead, isTree⟩

/-- The configuration of a file is read from its tree with the overriding settings put into
it, and checked. -/
theorem loadBytes_eq {lookUp : String → Target} {word pathText name : String}
    {environment : List Variable} {path : List UInt8} {values : Entries Toml.Value}
    (isText : textOfBytes? path = some pathText) (isFile : lookUp pathText = .file name text)
    (isDocument : Toml.read? text = some values)
    (isTree : Setting.emptyTable.putAll? (Setting.entriesOfToml (some (.file name)) values) =
      some (.table none before))
    (isPut : (Setting.table none before).putAll? (overrides word environment) =
      some (.table none after)) :
    loadBytes lookUp word environment path =
      (ofEntries after).mapError LoadError.unreadable >>= checked := by
  have isMerged : Setting.emptyTable.putAll?
      (Setting.entriesOfToml (some (.file name)) values ++ overrides word environment) =
        some (.table none after) := by
    rw [Setting.putAll?_append, isTree]
    exact isPut
  rw [loadBytes_eq_ofFile isText isFile, ofFile, documentSettings, isDocument]
  change ofSettings (_ ++ _) = _
  rw [ofSettings, isMerged]
  rfl

/-- A file that is loaded without an environment has a text that is loaded as the same
configuration. -/
theorem ofText_of_loadBytes {lookUp : String → Target} {word pathText name : String}
    {path : List UInt8} (isText : textOfBytes? path = some pathText)
    (isFile : lookUp pathText = .file name text)
    (loaded : loadBytes lookUp word [] path = .ok config) : ofText text = .ok config := by
  rw [loadBytes_eq_ofFile isText isFile] at loaded
  have free : ∀ entry ∈ ([] : List Variable), ¬ entry.Overrides word := by simp
  rw [ofText_eq_ofFile free name text, loaded]
  rfl

/-! ## Groups -/

/-- The group is missing or a table, so that its choices are read by their names. -/
def IsNamedGroup (entries : Entries Setting) (group : String) : Prop :=
  Entries.get? entries group = none ∨ HasTable entries group

/-- What is read of a group under a name only depends on the entry with this name. -/
theorem Group.read_congr {α : Type} {name : String} {place : Nat} {read : Setting → Decoded α}
    {standard : α} (same : Entries.get? after name = Entries.get? before name) :
    Group.read (.named after) name place read standard =
      Group.read (.named before) name place read standard := by
  rw [Group.read, Group.read, Group.get?, Group.get?, same]

theorem ofEntries_eq_ok_iff :
    ofEntries entries = .ok config ↔
      Group.read (.named entries) "strategy" 0 Backoff.ofSetting Backoff.standard =
          .ok config.backoff ∧
        Group.read (.named entries) "clock_skew" 1 Clock.ofSetting Clock.standard =
          .ok config.clock := by
  constructor
  · exact ofEntries_eq_ok
  · rintro ⟨backoff, clock⟩
    simp only [ofEntries, bind, Except.bind, backoff, clock]

theorem Backoff.ofSetting_eq_ok_iff {choices : Backoff} :
    Backoff.ofSetting (.table origin entries) = .ok choices ↔
      Backoff.ReadFrom (.named entries) choices := by
  constructor
  · exact Backoff.readFrom_of_ofSetting
  · rintro ⟨base, throttlingBase, maximum, attempts, jitter⟩
    simp only [Backoff.ofSetting, Group.ofSetting, bind, Except.bind, base, throttlingBase,
      maximum, attempts, jitter]

theorem Clock.ofSetting_eq_ok_iff {choices : Clock} :
    Clock.ofSetting (.table origin entries) = .ok choices ↔
      Clock.ReadFrom (.named entries) choices := by
  constructor
  · exact Clock.readFrom_of_ofSetting
  · rintro ⟨statuses, threshold, onAnyStatus⟩
    simp only [Clock.ofSetting, Group.ofSetting, bind, Except.bind, statuses, threshold,
      onAnyStatus]

/-- A named group is read like a table of its entries, when a table without entries has the
standard choices. -/
theorem Group.read_named {α : Type} {group : String} {place : Nat}
    {read : Setting → Decoded α} {standard choices : α} (isNamed : IsNamedGroup entries group)
    (ignores : ∀ origin other inner,
      read (.table origin inner) = .ok choices ↔ read (.table other inner) = .ok choices)
    (isStandard : read (.table none []) = .ok standard) :
    Group.read (.named entries) group place read standard = .ok choices ↔
      read (.table none (groupEntries entries group)) = .ok choices := by
  rcases isNamed with missing | ⟨origin, inner, isTable⟩
  · rw [Group.read_of_absent missing, groupEntries, missing]
    exact iff_of_eq (congrArg (· = _) isStandard.symm)
  · rw [Group.read_eq_ok_iff isTable, groupEntries, isTable]
    exact ignores origin none inner

theorem Backoff.read_iff {choices : Backoff} (isNamed : IsNamedGroup entries "strategy") :
    Group.read (.named entries) "strategy" 0 Backoff.ofSetting Backoff.standard = .ok choices ↔
      Backoff.ReadFrom (.named (groupEntries entries "strategy")) choices := by
  have isRead : Backoff.ofSetting (.table none (groupEntries entries "strategy")) = .ok choices ↔
      Backoff.ReadFrom (.named (groupEntries entries "strategy")) choices :=
    Backoff.ofSetting_eq_ok_iff
  rw [← isRead]
  exact Group.read_named isNamed
    (fun _ _ _ => Backoff.ofSetting_eq_ok_iff.trans Backoff.ofSetting_eq_ok_iff.symm) rfl

theorem Clock.read_iff {choices : Clock} (isNamed : IsNamedGroup entries "clock_skew") :
    Group.read (.named entries) "clock_skew" 1 Clock.ofSetting Clock.standard = .ok choices ↔
      Clock.ReadFrom (.named (groupEntries entries "clock_skew")) choices := by
  have isRead : Clock.ofSetting (.table none (groupEntries entries "clock_skew")) = .ok choices ↔
      Clock.ReadFrom (.named (groupEntries entries "clock_skew")) choices :=
    Clock.ofSetting_eq_ok_iff
  rw [← isRead]
  exact Group.read_named isNamed
    (fun _ _ _ => Clock.ofSetting_eq_ok_iff.trans Clock.ofSetting_eq_ok_iff.symm) rfl

end Triage.Config

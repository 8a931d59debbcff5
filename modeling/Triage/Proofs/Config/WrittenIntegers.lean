import Mathlib.Data.List.Nodup
import Triage.Proofs.Config.Listing
import Triage.Proofs.Config.Usability

/-!
# Integers that were written

A document that is loaded keeps every integer that it writes for the attempts, the jitter
or a sensitive status.  An integer that does not fit its word is never wrapped into it:
the document is refused, be it by the reader of documents, by the reader of settings or
by the check of the configuration.
-/

namespace Triage.Config

open Triage.Text Triage.Toml

/-! ## Spelling -/

/-- A text spells the entries that are read from it.  A plain document also spells its
tables when they hold integers that no document may have. -/
inductive Spells (text : String) (entries : Entries Toml.Value) : Prop where
  | document (isRead : Toml.read? text = some entries)
  | plain (layout : Layout) (tables : List PlainTable)
      (isText : documentText layout tables = text)
      (isEntries : tables.map PlainTable.value = entries)

/-- The entries write a value for a key of the table with some head. -/
def Writes (entries : Entries Toml.Value) (head key : String) (value : Toml.Value) : Prop :=
  ∃ inner, (head, .table inner) ∈ entries ∧ (key, value) ∈ inner

/-- The heads are names, and no name comes twice in any case. -/
structure HasPlainNames (entries : Entries Toml.Value) : Prop where
  heads : (entries.map Prod.fst).Nodup
  isName : ∀ entry ∈ entries, KeyPath.ofKey entry.1 = ⟨entry.1, []⟩
  keys : ∀ head inner, (head, .table inner) ∈ entries →
    (inner.map fun entry => lowercase entry.1).Nodup

variable {text : String} {entries : Entries Toml.Value} {config : Config}

/-- What a loaded text spells was read from it. -/
theorem Spells.isRead (spelled : Spells text entries) (names : HasPlainNames entries)
    (loaded : ofText text = .ok config) : Toml.read? text = some entries := by
  cases spelled with
  | document isRead => exact isRead
  | plain layout tables isText isEntries =>
      subst isText isEntries
      cases isRead : Toml.read? (documentText layout tables) with
      | none =>
          rw [ofText, documentSettings, isRead] at loaded
          contradiction
      | some found =>
          rw [← isRead]
          apply read?_documentText layout (fits_of_read?_documentText isRead)
          · have heads := names.heads
            rwa [List.map_map] at heads
          · intro table isTable
            have keys := names.keys table.value.1 _ (List.mem_map_of_mem isTable)
            apply List.Nodup.of_map lowercase
            rw [List.map_map] at keys ⊢
            exact keys

/-! ## The tree of a document -/

/-- The tree of settings that entries become. -/
def writtenTree (entries : Entries Toml.Value) : Entries Setting :=
  entries.map fun (name, value) => (name, Setting.laidOver (Setting.ofToml none value) none)

/-- A configuration that is loaded from a document is read from its tree. -/
theorem ofEntries_writtenTree (names : HasPlainNames entries)
    (isRead : Toml.read? text = some entries) (loaded : ofText text = .ok config) :
    ofEntries (writtenTree entries) = .ok config := by
  have isTree : Setting.emptyTable.putAll? (Setting.entriesOfToml none entries) =
      some (.table none (writtenTree entries)) := by
    rw [Setting.entriesOfToml_eq_map, Setting.emptyTable, Setting.putAll?_of_newNames]
    · rw [List.nil_append, List.map_map]
      rfl
    · intro setting isIn
      obtain ⟨entry, isEntry, rfl⟩ := List.mem_map.mp isIn
      exact names.isName entry isEntry
    · rw [List.map_nil, List.nil_append, List.map_map]
      exact names.heads
  obtain ⟨settings, isDocument, isMade⟩ := exists_of_bind_eq_ok loaded
  obtain ⟨found, isFound, rfl⟩ := exists_entries_of_documentSettings isDocument
  obtain ⟨tree, isPut, decoded, -⟩ := exists_tree_of_ofSettings isMade
  cases isRead.symm.trans isFound
  cases isTree.symm.trans isPut
  exact decoded

/-- What is written for a key is in the tree, in the table of its head. -/
theorem exists_get?_writtenTree (names : HasPlainNames entries) {head key : String}
    {value : Toml.Value} (lower : lowercase key = key) (written : Writes entries head key value) :
    ∃ inner, Entries.get? (writtenTree entries) head = some (.table none inner) ∧
      Entries.get? inner key = some (Setting.laidOver (Setting.ofToml none value) none) := by
  obtain ⟨table, isHead, isKey⟩ := written
  have distinct := names.keys head table isHead
  let inner : Entries Setting := table.map fun (name, value) =>
    (lowercase name, Setting.laidOver (Setting.ofToml none value) none)
  have laid : Setting.laidOver (Setting.ofToml none (.table table)) none = .table none inner := by
    rw [Setting.ofToml, Setting.entriesOfToml_eq_map, Setting.laidOver_table_none]
    · rw [List.map_map]
      rfl
    · rw [List.map_map]
      exact distinct
  refine ⟨inner, ?_, ?_⟩
  · apply Entries.get?_of_mem
    · rw [writtenTree, List.map_map]
      exact names.heads
    · exact List.mem_map.mpr ⟨_, isHead, Prod.ext rfl laid⟩
  · apply Entries.get?_of_mem
    · rw [List.map_map]
      exact distinct
    · exact List.mem_map.mpr ⟨_, isKey, Prod.ext lower rfl⟩

/-! ## Loaded integers -/

/-- The choices for delays and attempts are read from a table that holds what is written. -/
theorem exists_backoff_group (names : HasPlainNames entries) (key : BackoffKey)
    {value : Toml.Value} (decoded : ofEntries (writtenTree entries) = .ok config)
    (written : Writes entries backoffKeys.head.name (backoffKeys.bare key).name value) :
    ∃ inner, Backoff.ReadFrom (.named inner) config.backoff ∧
      Entries.get? inner (backoffKeys.bare key).name =
        some (Setting.laidOver (Setting.ofToml none value) none) := by
  obtain ⟨inner, isHead, isKey⟩ :=
    exists_get?_writtenTree names (backoffKeys.lowercase_bare key) written
  have group := (Group.read_eq_ok_iff isHead).mp (ofEntries_eq_ok decoded).1
  exact ⟨inner, Backoff.readFrom_of_ofSetting group, isKey⟩

/-- The choices for wrong clocks are read from a table that holds what is written. -/
theorem exists_clock_group (names : HasPlainNames entries) (key : ClockKey)
    {value : Toml.Value} (decoded : ofEntries (writtenTree entries) = .ok config)
    (written : Writes entries clockKeys.head.name (clockKeys.bare key).name value) :
    ∃ inner, Clock.ReadFrom (.named inner) config.clock ∧
      Entries.get? inner (clockKeys.bare key).name =
        some (Setting.laidOver (Setting.ofToml none value) none) := by
  obtain ⟨inner, isHead, isKey⟩ :=
    exists_get?_writtenTree names (clockKeys.lowercase_bare key) written
  have group := (Group.read_eq_ok_iff isHead).mp (ofEntries_eq_ok decoded).2
  exact ⟨inner, Clock.readFrom_of_ofSetting group, isKey⟩

theorem jitterPercent_eq_of_written (names : HasPlainNames entries) {number : Int}
    (decoded : ofEntries (writtenTree entries) = .ok config)
    (written : Writes entries "strategy" "jitter_percent" (.integer number)) :
    (config.backoff.jitterPercent.toNat : Int) = number := by
  obtain ⟨inner, group, isThere⟩ := exists_backoff_group names .jitter decoded written
  exact toNat_of_word8_integer ((Group.read_eq_ok_iff isThere).mp group.jitter)

theorem maxAttempts_eq_of_written (names : HasPlainNames entries) {number : Int}
    (decoded : ofEntries (writtenTree entries) = .ok config)
    (written : Writes entries "strategy" "max_attempts" (.integer number)) :
    (config.backoff.maxAttempts.toNat : Int) = number := by
  obtain ⟨inner, group, isThere⟩ := exists_backoff_group names .attempts decoded written
  exact toNat_of_word32_integer ((Group.read_eq_ok_iff isThere).mp group.attempts)

/-- A status is the integer that an item writes, if it writes one. -/
def KeepsItem (item : Toml.Value) (status : UInt16) : Prop :=
  ∀ number, item = .integer number → (status.toNat : Int) = number

/-- Every item of the list is read as the status at its place. -/
theorem forall₂_keepsItem_of_written (names : HasPlainNames entries) {items : List Toml.Value}
    (decoded : ofEntries (writtenTree entries) = .ok config)
    (written : Writes entries "clock_skew" "sensitive_status_codes" (.array items)) :
    List.Forall₂ KeepsItem items config.clock.sensitiveStatuses := by
  obtain ⟨inner, group, isThere⟩ := exists_clock_group names .statuses decoded written
  have isList : list word16 (.list none (Setting.itemsOfToml none items)) =
      .ok config.clock.sensitiveStatuses :=
    (Group.read_eq_ok_iff isThere).mp group.statuses
  have readItems := forall₂_of_items isList
  rw [Setting.itemsOfToml_eq_map, List.forall₂_map_left_iff] at readItems
  apply readItems.imp
  rintro item status isStatus number rfl
  exact toNat_of_word16_integer isStatus

theorem exists_status_of_mem {items : List Toml.Value} {statuses : List UInt16}
    (keeps : List.Forall₂ KeepsItem items statuses) {number : Int}
    (isIn : .integer number ∈ items) : ∃ status ∈ statuses, (status.toNat : Int) = number := by
  induction keeps with
  | nil => contradiction
  | cons keepsItem _ ih =>
      rcases List.mem_cons.mp isIn with same | isLater
      · exact ⟨_, List.mem_cons_self, keepsItem number same.symm⟩
      · obtain ⟨status, isStatus, same⟩ := ih isLater
        exact ⟨status, List.mem_cons_of_mem _ isStatus, same⟩

/-- The integers of a loaded configuration are the ones that its document writes: those
for the jitter, for the attempts and, place by place, for the sensitive statuses. -/
structure KeepsIntegers (entries : Entries Toml.Value) (config : Config) : Prop where
  jitter : ∀ number, Writes entries "strategy" "jitter_percent" (.integer number) →
    (config.backoff.jitterPercent.toNat : Int) = number
  attempts : ∀ number, Writes entries "strategy" "max_attempts" (.integer number) →
    (config.backoff.maxAttempts.toNat : Int) = number
  statuses : ∀ items, Writes entries "clock_skew" "sensitive_status_codes" (.array items) →
    List.Forall₂ KeepsItem items config.clock.sensitiveStatuses

theorem keepsIntegers_of_ofText (spelled : Spells text entries) (names : HasPlainNames entries)
    (loaded : ofText text = .ok config) : KeepsIntegers entries config := by
  have decoded := ofEntries_writtenTree names (spelled.isRead names loaded) loaded
  exact {
    jitter := fun number => jitterPercent_eq_of_written names decoded
    attempts := fun number => maxAttempts_eq_of_written names decoded
    statuses := fun items => forall₂_keepsItem_of_written names decoded }

theorem exists_error_of_forall_ne (notLoaded : ∀ config, ofText text ≠ .ok config) :
    ∃ error, ofText text = .error error := by
  cases result : ofText text with
  | error error => exact ⟨error, rfl⟩
  | ok config => exact absurd result (notLoaded config)

/-- No integer is altered while a document is loaded: what is loaded has the integers that
were written, and a document with an integer out of range is refused. -/
theorem written_integers_are_kept_or_refused (spelled : Spells text entries)
    (names : HasPlainNames entries) :
    (∀ config, ofText text = .ok config → KeepsIntegers entries config) ∧
      (∀ number, Writes entries "strategy" "jitter_percent" (.integer number) →
        number < 0 ∨ 100 < number → ∃ error, ofText text = .error error) ∧
      (∀ number, Writes entries "strategy" "max_attempts" (.integer number) →
        number < 1 ∨ 4294967295 < number → ∃ error, ofText text = .error error) ∧
      ∀ items number,
        Writes entries "clock_skew" "sensitive_status_codes" (.array items) →
        .integer number ∈ items → number < 0 ∨ 65535 < number →
        ∃ error, ofText text = .error error := by
  refine ⟨fun config loaded => keepsIntegers_of_ofText spelled names loaded, ?_, ?_, ?_⟩
  · intro number written outside
    apply exists_error_of_forall_ne
    intro config loaded
    have kept := (keepsIntegers_of_ofText spelled names loaded).jitter number written
    obtain ⟨-, -, jitter_le, -⟩ := fault?_eq_none_iff.mp (fault?_of_ofText loaded)
    have small : config.backoff.jitterPercent.toNat ≤ 100 := by
      simpa [UInt8.le_iff_toNat_le] using jitter_le
    omega
  · intro number written outside
    apply exists_error_of_forall_ne
    intro config loaded
    have kept := (keepsIntegers_of_ofText spelled names loaded).attempts number written
    obtain ⟨attempts_ne, -, -, -⟩ := fault?_eq_none_iff.mp (fault?_of_ofText loaded)
    have positive : config.backoff.maxAttempts.toNat ≠ 0 := fun none =>
      attempts_ne (UInt32.toNat_inj.mp none)
    have small := config.backoff.maxAttempts.toNat_lt
    omega
  · intro items number written isIn outside
    apply exists_error_of_forall_ne
    intro config loaded
    have kept := (keepsIntegers_of_ofText spelled names loaded).statuses items written
    obtain ⟨status, -, same⟩ := exists_status_of_mem kept isIn
    have small := status.toNat_lt
    omega

/-- More attempts than a word holds, by two, would be one attempt when they wrapped. -/
theorem written_integers_are_kept_or_refused_wrapping :
    HasPlainNames [("strategy", .table [("max_attempts", .integer 4294967297)])] ∧
      ∃ error, ofText "[strategy]\nmax_attempts = 4294967297\n" = .error error := by
  have names : HasPlainNames [("strategy", .table [("max_attempts", .integer 4294967297)])] := {
    heads := by decide
    isName := by decide
    keys := by
      intro head inner isIn
      cases List.mem_singleton.mp isIn
      decide }
  have spelled : Spells "[strategy]\nmax_attempts = 4294967297\n"
      [("strategy", .table [("max_attempts", .integer 4294967297)])] :=
    .plain ⟨0, 0⟩ [⟨⟨"strategy", by decide, by decide⟩,
      [(⟨"max_attempts", by decide, by decide⟩, .integer 4294967297)]⟩] (by decide) rfl
  have kept := written_integers_are_kept_or_refused spelled names
  exact ⟨names, kept.2.2.1 4294967297 ⟨_, List.mem_singleton_self _, List.mem_singleton_self _⟩
    (by decide)⟩

end Triage.Config

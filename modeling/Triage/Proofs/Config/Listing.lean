import Triage.Proofs.Config.Decode
import Triage.Proofs.Config.Document

/-!
# Configurations that were written

A document may list any of the eight choices of a configuration, in any order inside
their groups.  It is read as the standard configuration with the listed choices in place
of the standard ones, and this configuration as a whole is checked.
-/

namespace Triage.Config

open Triage.Text Triage.Toml

/-! ## Keys -/

/-- The keys of the choices for delays and attempts. -/
inductive BackoffKey where
  | base
  | throttlingBase
  | maximum
  | attempts
  | jitter
deriving DecidableEq

/-- The keys of the choices for wrong clocks. -/
inductive ClockKey where
  | statuses
  | threshold
  | onAnyStatus
deriving DecidableEq

/-- How the choices for delays and attempts are written. -/
def backoffKeys : KeyGroup BackoffKey Backoff where
  head := ⟨"strategy", by decide, by decide⟩
  bare
    | .base => ⟨"base_delay_ms", by decide, by decide⟩
    | .throttlingBase => ⟨"throttling_base_delay_ms", by decide, by decide⟩
    | .maximum => ⟨"max_delay_ms", by decide, by decide⟩
    | .attempts => ⟨"max_attempts", by decide, by decide⟩
    | .jitter => ⟨"jitter_percent", by decide, by decide⟩
  value choices
    | .base => .integer choices.baseMilliseconds.toNat
    | .throttlingBase => .integer choices.throttlingBaseMilliseconds.toNat
    | .maximum => .integer choices.maxMilliseconds.toNat
    | .attempts => .integer choices.maxAttempts.toNat
    | .jitter => .integer choices.jitterPercent.toNat
  bare_injective first second := by cases first <;> cases second <;> decide
  lowercase_bare key := by cases key <;> decide
  ofKey_head := by decide

/-- How the choices for wrong clocks are written. -/
def clockKeys : KeyGroup ClockKey Clock where
  head := ⟨"clock_skew", by decide, by decide⟩
  bare
    | .statuses => ⟨"sensitive_status_codes", by decide, by decide⟩
    | .threshold => ⟨"threshold_secs", by decide, by decide⟩
    | .onAnyStatus => ⟨"possible_skew_codes_on_any_status", by decide, by decide⟩
  value choices
    | .statuses => .integers (choices.sensitiveStatuses.map fun status => (status.toNat : Int))
    | .threshold => .integer choices.thresholdSeconds.toInt
    | .onAnyStatus => .boolean choices.possibleCodesOnAnyStatus
  bare_injective first second := by cases first <;> cases second <;> decide
  lowercase_bare key := by cases key <;> decide
  ofKey_head := by decide

/-! ## Merged choices -/

/-- The choices for some keys, and the standard choices for all others. -/
def Backoff.merged (keys : List BackoffKey) (choices : Backoff) : Backoff where
  baseMilliseconds :=
    if .base ∈ keys then choices.baseMilliseconds else standard.baseMilliseconds
  throttlingBaseMilliseconds :=
    if .throttlingBase ∈ keys then choices.throttlingBaseMilliseconds
    else standard.throttlingBaseMilliseconds
  maxMilliseconds := if .maximum ∈ keys then choices.maxMilliseconds else standard.maxMilliseconds
  maxAttempts := if .attempts ∈ keys then choices.maxAttempts else standard.maxAttempts
  jitterPercent := if .jitter ∈ keys then choices.jitterPercent else standard.jitterPercent

/-- The choices for some keys, and the standard choices for all others. -/
def Clock.merged (keys : List ClockKey) (choices : Clock) : Clock where
  sensitiveStatuses :=
    if .statuses ∈ keys then choices.sensitiveStatuses else standard.sensitiveStatuses
  thresholdSeconds :=
    if .threshold ∈ keys then choices.thresholdSeconds else standard.thresholdSeconds
  possibleCodesOnAnyStatus :=
    if .onAnyStatus ∈ keys then choices.possibleCodesOnAnyStatus
    else standard.possibleCodesOnAnyStatus

/-- Entries that are listed for some keys are read as the choices for these keys. -/
theorem Backoff.ofSetting_table (origin : Option Origin) (keys : List BackoffKey)
    (choices : Backoff) :
    Backoff.ofSetting (.table none ((backoffKeys.table keys choices).settings origin)) =
      .ok (Backoff.merged keys choices) := by
  have isThere : ∀ key, Entries.get? ((backoffKeys.table keys choices).settings origin)
      (backoffKeys.bare key).name =
        if key ∈ keys then some ((backoffKeys.value choices key).setting origin) else none :=
    KeyGroup.get?_settings origin
  generalize (backoffKeys.table keys choices).settings origin = entries at isThere ⊢
  have base : Group.read (.named entries) "base_delay_ms" 0 word64 standard.baseMilliseconds =
      .ok (Backoff.merged keys choices).baseMilliseconds :=
    Group.read_listed (isThere .base) (word64_numeral _)
  have throttlingBase : Group.read (.named entries) "throttling_base_delay_ms" 1 word64
      standard.throttlingBaseMilliseconds =
        .ok (Backoff.merged keys choices).throttlingBaseMilliseconds :=
    Group.read_listed (isThere .throttlingBase) (word64_numeral _)
  have maximum : Group.read (.named entries) "max_delay_ms" 2 word64 standard.maxMilliseconds =
      .ok (Backoff.merged keys choices).maxMilliseconds :=
    Group.read_listed (isThere .maximum) (word64_numeral _)
  have attempts : Group.read (.named entries) "max_attempts" 3 word32 standard.maxAttempts =
      .ok (Backoff.merged keys choices).maxAttempts :=
    Group.read_listed (isThere .attempts) (word32_numeral _)
  have jitter : Group.read (.named entries) "jitter_percent" 4 word8 standard.jitterPercent =
      .ok (Backoff.merged keys choices).jitterPercent :=
    Group.read_listed (isThere .jitter) (word8_numeral _)
  simp only [Backoff.ofSetting, Group.ofSetting, bind, Except.bind, base, throttlingBase,
    maximum, attempts, jitter]

/-- Entries that are listed for some keys are read as the choices for these keys. -/
theorem Clock.ofSetting_table (origin : Option Origin) (keys : List ClockKey)
    (choices : Clock) :
    Clock.ofSetting (.table none ((clockKeys.table keys choices).settings origin)) =
      .ok (Clock.merged keys choices) := by
  have isThere : ∀ key, Entries.get? ((clockKeys.table keys choices).settings origin)
      (clockKeys.bare key).name =
        if key ∈ keys then some ((clockKeys.value choices key).setting origin) else none :=
    KeyGroup.get?_settings origin
  generalize (clockKeys.table keys choices).settings origin = entries at isThere ⊢
  have readStatuses : list word16 ((clockKeys.value choices .statuses).setting origin) =
      .ok choices.sensitiveStatuses := by
    change list word16 (.list origin (List.map _ (List.map _ choices.sensitiveStatuses))) = _
    rw [List.map_map]
    exact list_word16_numerals choices.sensitiveStatuses
  have statuses : Group.read (.named entries) "sensitive_status_codes" 0 (list word16)
      standard.sensitiveStatuses = .ok (Clock.merged keys choices).sensitiveStatuses :=
    Group.read_listed (isThere .statuses) readStatuses
  have threshold : Group.read (.named entries) "threshold_secs" 1 integer
      standard.thresholdSeconds = .ok (Clock.merged keys choices).thresholdSeconds :=
    Group.read_listed (isThere .threshold) (integer_scalar _)
  have onAnyStatus : Group.read (.named entries) "possible_skew_codes_on_any_status" 2 boolean
      standard.possibleCodesOnAnyStatus =
        .ok (Clock.merged keys choices).possibleCodesOnAnyStatus :=
    Group.read_listed (isThere .onAnyStatus) rfl
  simp only [Clock.ofSetting, Group.ofSetting, bind, Except.bind, statuses, threshold,
    onAnyStatus]

/-! ## Documents -/

/-- The keys that a document lists: for either group its keys in the order in which they
stand, unless the document has no table for the group. -/
structure Listing where
  backoff : Option (List BackoffKey)
  clock : Option (List ClockKey)
  clockFirst : Bool
  backoff_nodup : ∀ keys ∈ backoff, keys.Nodup
  clock_nodup : ∀ keys ∈ clock, keys.Nodup

/-- TOML has integers for the words of 64 bits that are chosen. -/
structure IsWritable (choices : Config) : Prop where
  base_le : choices.backoff.baseMilliseconds.toNat ≤ 9223372036854775807
  throttlingBase_le : choices.backoff.throttlingBaseMilliseconds.toNat ≤ 9223372036854775807
  maximum_le : choices.backoff.maxMilliseconds.toNat ≤ 9223372036854775807

theorem fits_backoff {choices : Config} (writable : IsWritable choices) (key : BackoffKey) :
    (backoffKeys.value choices.backoff key).Fits := by
  have attempts_lt := choices.backoff.maxAttempts.toNat_lt
  have jitter_lt := choices.backoff.jitterPercent.toNat_lt
  cases key with
  | base => exact PlainValue.has64Bits_natCast writable.base_le
  | throttlingBase => exact PlainValue.has64Bits_natCast writable.throttlingBase_le
  | maximum => exact PlainValue.has64Bits_natCast writable.maximum_le
  | attempts => exact PlainValue.has64Bits_natCast (by omega)
  | jitter => exact PlainValue.has64Bits_natCast (by omega)

theorem fits_clock (choices : Clock) (key : ClockKey) : (clockKeys.value choices key).Fits := by
  cases key with
  | statuses =>
      intro value isIn
      rcases List.mem_map.mp isIn with ⟨status, -, rfl⟩
      have status_lt := status.toNat_lt
      exact PlainValue.has64Bits_natCast (by omega)
  | threshold =>
      have threshold_lt := choices.thresholdSeconds.toInt_lt
      have le_threshold := choices.thresholdSeconds.le_toInt
      constructor <;> omega
  | onAnyStatus => trivial

namespace Listing

variable {choices : Config}

/-- The tables of the document. -/
def tables (listing : Listing) (choices : Config) : List PlainTable :=
  let backoff := listing.backoff.toList.map fun keys => backoffKeys.table keys choices.backoff
  let clock := listing.clock.toList.map fun keys => clockKeys.table keys choices.clock
  if listing.clockFirst then clock ++ backoff else backoff ++ clock

/-- The document that lists the choices for its keys. -/
def text (listing : Listing) (layout : Layout) (choices : Config) : String :=
  documentText layout (listing.tables choices)

/-- The choices for the listed keys, and the standard choices for all others. -/
def merged (listing : Listing) (choices : Config) : Config where
  backoff := Backoff.merged (listing.backoff.getD []) choices.backoff
  clock := Clock.merged (listing.clock.getD []) choices.clock

theorem mem_tables {listing : Listing} {table : PlainTable} :
    table ∈ listing.tables choices ↔
      (∃ keys ∈ listing.backoff, backoffKeys.table keys choices.backoff = table) ∨
        ∃ keys ∈ listing.clock, clockKeys.table keys choices.clock = table := by
  unfold tables
  split <;> simp [or_comm]

theorem isLoadable (listing : Listing) (writable : IsWritable choices) :
    ∀ table ∈ listing.tables choices, IsLoadable table := by
  intro table isIn
  rcases mem_tables.mp isIn with ⟨keys, isListed, rfl⟩ | ⟨keys, isListed, rfl⟩
  · exact KeyGroup.isLoadable_table (listing.backoff_nodup keys isListed)
      fun key _ => fits_backoff writable key
  · exact KeyGroup.isLoadable_table (listing.clock_nodup keys isListed)
      fun key _ => fits_clock choices.clock key

theorem nodup_heads (listing : Listing) (choices : Config) :
    ((listing.tables choices).map fun table => table.key.name).Nodup := by
  rcases listing with ⟨_ | backoff, _ | clock, _ | _, -, -⟩
  all_goals simp [tables, KeyGroup.table, backoffKeys, clockKeys]

/-- The tree of a listing has the listed keys of either group. -/
theorem get?_tableTree (listing : Listing) (choices : Config) :
    Entries.get? (tableTree none (listing.tables choices)) "strategy" =
        listing.backoff.map (fun keys =>
          .table none ((backoffKeys.table keys choices.backoff).settings none)) ∧
      Entries.get? (tableTree none (listing.tables choices)) "clock_skew" =
        listing.clock.map fun keys =>
          .table none ((clockKeys.table keys choices.clock).settings none) := by
  rcases listing with ⟨_ | backoff, _ | clock, _ | _, -, -⟩
  all_goals constructor <;> rfl

/-- The tree of a listing is read as the merged configuration. -/
theorem ofEntries_tableTree (listing : Listing) (choices : Config) :
    ofEntries (tableTree none (listing.tables choices)) = .ok (listing.merged choices) := by
  rcases listing.get?_tableTree choices with ⟨isBackoff, isClock⟩
  generalize tableTree none (listing.tables choices) = entries at isBackoff isClock ⊢
  have backoff : Group.read (.named entries) "strategy" 0 Backoff.ofSetting Backoff.standard =
      .ok (listing.merged choices).backoff := by
    rw [merged]
    cases isListed : listing.backoff with
    | none =>
        rw [isListed] at isBackoff
        exact Group.read_of_absent isBackoff
    | some keys =>
        rw [isListed] at isBackoff
        exact Group.read_of_present isBackoff (Backoff.ofSetting_table none keys choices.backoff)
  have clock : Group.read (.named entries) "clock_skew" 1 Clock.ofSetting Clock.standard =
      .ok (listing.merged choices).clock := by
    rw [merged]
    cases isListed : listing.clock with
    | none =>
        rw [isListed] at isClock
        exact Group.read_of_absent isClock
    | some keys =>
        rw [isListed] at isClock
        exact Group.read_of_present isClock (Clock.ofSetting_table none keys choices.clock)
  simp only [ofEntries, bind, Except.bind, backoff, clock]

/-- A document that lists some keys is read as the standard configuration with the
listed choices in place of the standard ones; when this configuration has a fault, it
is refused for its first fault. -/
theorem listed_choices_replace_standard (listing : Listing) (layout : Layout)
    (writable : IsWritable choices) :
    ofText (listing.text layout choices) =
      match (listing.merged choices).fault? with
      | some fault => .error (.invalid fault)
      | none => .ok (listing.merged choices) := by
  rcases exists_documentSettings none layout (listing.isLoadable writable)
    (listing.nodup_heads choices) with ⟨settings, isRead, isTree⟩
  rw [ofText, text, isRead]
  change ofSettings settings = _
  rw [ofSettings, isTree]
  simp only [Setting.asTable, listing.ofEntries_tableTree choices]
  rfl

theorem listed_choices_replace_standard_partialFile :
    IsWritable ⟨⟨50, 0, 0, 8, 0⟩, ⟨[400, 403], 0, false⟩⟩ ∧
      ofText "[clock_skew]\nsensitive_status_codes = [400, 403]\n[strategy]\nmax_attempts = 8\n" =
        .ok ⟨{ Backoff.standard with maxAttempts := 8 },
          { Clock.standard with sensitiveStatuses := [400, 403] }⟩ := by
  have writable : IsWritable ⟨⟨50, 0, 0, 8, 0⟩, ⟨[400, 403], 0, false⟩⟩ := by
    constructor <;> decide
  refine ⟨writable, ?_⟩
  have loaded := listed_choices_replace_standard
    ⟨some [.attempts], some [.statuses], true, by decide, by decide⟩ ⟨0, 0⟩ writable
  have isText : text ⟨some [.attempts], some [.statuses], true, by decide, by decide⟩ ⟨0, 0⟩
      ⟨⟨50, 0, 0, 8, 0⟩, ⟨[400, 403], 0, false⟩⟩ =
        "[clock_skew]\nsensitive_status_codes = [400, 403]\n[strategy]\nmax_attempts = 8\n" := by
    decide
  rw [isText] at loaded
  rw [loaded]
  rfl

end Listing

end Triage.Config

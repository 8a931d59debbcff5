import Mathlib.Data.List.Forall2
import Triage.Config.Decode

/-!
# Reading settings that were written

Integers in the range of a word are read as that word, and lists of them as lists of
words.  A setting of a group is read when its name is there and keeps its standard value
when it is not.  The other way round, a word that was read from an integer is that
integer, and a group that was read has read each of its settings.
-/

namespace Triage.Config

variable {origin : Option Origin}

/-! ## Results -/

section

variable {α β ε δ : Type}

theorem exists_of_bind_eq_ok {first : Except ε α} {next : α → Except ε β} {result : β}
    (isOk : first >>= next = .ok result) :
    ∃ value, first = .ok value ∧ next value = .ok result := by
  cases first with
  | error problem => contradiction
  | ok value => exact ⟨value, rfl, isOk⟩

theorem exists_of_map_eq_ok {first : Except ε α} {change : α → β} {result : β}
    (isOk : change <$> first = .ok result) :
    ∃ value, first = .ok value ∧ change value = result := by
  cases first with
  | error problem => contradiction
  | ok value => exact ⟨value, rfl, Except.ok.inj isOk⟩

theorem mapError_eq_ok_iff {result : Except ε α} {change : ε → δ} {value : α} :
    result.mapError change = .ok value ↔ result = .ok value := by
  cases result <;> simp [Except.mapError]

theorem mapError_bind (first : Except ε α) (next : α → Except ε β) (change : ε → δ) :
    (first >>= next).mapError change =
      first.mapError change >>= fun value => (next value).mapError change := by
  cases first <;> rfl

theorem mapError_map (first : Except ε α) (change : ε → δ) (result : α → β) :
    (result <$> first).mapError change = result <$> first.mapError change := by
  cases first <;> rfl

theorem mapError_mapError (first : Except ε α) (change : ε → δ) (again : δ → β) :
    (first.mapError change).mapError again = first.mapError (again ∘ change) := by
  cases first <;> rfl

end

/-! ## Numbers -/

/-- The setting of a natural number. -/
def numeral (origin : Option Origin) (number : Nat) : Setting := .scalar origin (.integer number)

theorem natural_numeral (number : Nat) : natural (numeral origin number) = .ok number := by
  rw [numeral, natural, if_pos (Int.natCast_nonneg number), Int.toNat_natCast]

theorem word_numeral {bits number : Nat} (small : number < Nat.pow 2 bits) :
    word bits (numeral origin number) = .ok number := by
  rw [word, natural_numeral]
  exact if_pos small

theorem word8_numeral (word : UInt8) : word8 (numeral origin word.toNat) = .ok word := by
  rw [word8, word_numeral word.toNat_lt]
  exact congrArg Except.ok UInt8.ofNat_toNat

theorem word16_numeral (word : UInt16) : word16 (numeral origin word.toNat) = .ok word := by
  rw [word16, word_numeral word.toNat_lt]
  exact congrArg Except.ok UInt16.ofNat_toNat

theorem word32_numeral (word : UInt32) : word32 (numeral origin word.toNat) = .ok word := by
  rw [word32, word_numeral word.toNat_lt]
  exact congrArg Except.ok UInt32.ofNat_toNat

theorem word64_numeral (word : UInt64) : word64 (numeral origin word.toNat) = .ok word := by
  rw [word64, natural_numeral]
  exact congrArg Except.ok UInt64.ofNat_toNat

theorem integer_scalar (value : Int64) :
    integer (.scalar origin (.integer value.toInt)) = .ok value :=
  congrArg Except.ok (Int64.ofInt_toInt value)

/-! ## Lists -/

theorem items_of_forall {α : Type} {read : Setting → Decoded α} {setting : α → Setting}
    (reads : ∀ value, read (setting value) = .ok value) (values : List α) (index : Nat) :
    items read index (values.map setting) = .ok values := by
  induction values generalizing index with
  | nil => rfl
  | cons value later ih =>
      rw [List.map_cons, items, reads, ih]
      rfl

theorem list_word16_numerals (words : List UInt16) :
    list word16 (.list origin (words.map fun word => numeral origin word.toNat)) = .ok words :=
  items_of_forall word16_numeral words 0

/-! ## Groups -/

section

variable {α : Type} {entries : Entries Setting} {name : String} {place : Nat}
  {read : Setting → Decoded α} {setting : Setting} {chosen standard : α}

theorem Group.read_of_absent (absent : Entries.get? entries name = none) :
    Group.read (.named entries) name place read standard = .ok standard := by
  rw [Group.read, Group.get?, absent]
  rfl

/-- A setting that is there decides what a group is read as. -/
theorem Group.read_eq_ok_iff (present : Entries.get? entries name = some setting) :
    Group.read (.named entries) name place read standard = .ok chosen ↔
      read setting = .ok chosen := by
  rw [Group.read, Group.get?, present]
  exact mapError_eq_ok_iff

theorem Group.read_of_present (present : Entries.get? entries name = some setting)
    (reads : read setting = .ok chosen) :
    Group.read (.named entries) name place read standard = .ok chosen :=
  (Group.read_eq_ok_iff present).mpr reads

/-- A setting that is there for some keys only: the others keep their standard value. -/
theorem Group.read_listed {Key : Type} [DecidableEq Key] {key : Key} {keys : List Key}
    (isThere : Entries.get? entries name = if key ∈ keys then some setting else none)
    (reads : read setting = .ok chosen) :
    Group.read (.named entries) name place read standard =
      .ok (if key ∈ keys then chosen else standard) := by
  by_cases isIn : key ∈ keys
  · rw [if_pos isIn] at isThere ⊢
    exact Group.read_of_present isThere reads
  · rw [if_neg isIn] at isThere ⊢
    exact Group.read_of_absent isThere

end

/-! ## What was read -/

/-- A word that was read from an integer is that integer. -/
theorem eq_of_word_integer {bits value : Nat} {number : Int}
    (isRead : word bits (.scalar origin (.integer number)) = .ok value) :
    (value : Int) = number ∧ value < Nat.pow 2 bits := by
  obtain ⟨natural, isNatural, small⟩ := exists_of_bind_eq_ok isRead
  simp only [Config.natural] at isNatural
  split at isNatural
  · rename_i nonneg
    cases isNatural
    split at small
    · cases small
      exact ⟨Int.toNat_of_nonneg nonneg, ‹_›⟩
    · contradiction
  · contradiction

theorem toNat_of_word8_integer {value : UInt8} {number : Int}
    (isRead : word8 (.scalar origin (.integer number)) = .ok value) :
    (value.toNat : Int) = number := by
  obtain ⟨natural, isNatural, rfl⟩ := exists_of_map_eq_ok isRead
  obtain ⟨same, small⟩ := eq_of_word_integer isNatural
  rw [UInt8.toNat_ofNat_of_lt' small, same]

theorem toNat_of_word16_integer {value : UInt16} {number : Int}
    (isRead : word16 (.scalar origin (.integer number)) = .ok value) :
    (value.toNat : Int) = number := by
  obtain ⟨natural, isNatural, rfl⟩ := exists_of_map_eq_ok isRead
  obtain ⟨same, small⟩ := eq_of_word_integer isNatural
  rw [UInt16.toNat_ofNat_of_lt' small, same]

theorem toNat_of_word32_integer {value : UInt32} {number : Int}
    (isRead : word32 (.scalar origin (.integer number)) = .ok value) :
    (value.toNat : Int) = number := by
  obtain ⟨natural, isNatural, rfl⟩ := exists_of_map_eq_ok isRead
  obtain ⟨same, small⟩ := eq_of_word_integer isNatural
  rw [UInt32.toNat_ofNat_of_lt' small, same]

/-- A list that was read has read each of its items. -/
theorem forall₂_of_items {α : Type} {read : Setting → Decoded α} {index : Nat}
    {settings : List Setting} {values : List α} (isRead : items read index settings = .ok values) :
    List.Forall₂ (fun setting value => read setting = .ok value) settings values := by
  induction settings generalizing index values with
  | nil =>
      cases isRead
      exact .nil
  | cons setting later ih =>
      obtain ⟨value, isValue, isReadLater⟩ := exists_of_bind_eq_ok isRead
      obtain ⟨laterValues, isLater, isList⟩ := exists_of_bind_eq_ok isReadLater
      cases isList
      exact .cons (mapError_eq_ok_iff.mp isValue) (ih isLater)

/-- A group of choices that was read has read each of them. -/
structure Backoff.ReadFrom (group : Group) (choices : Backoff) : Prop where
  base : group.read "base_delay_ms" 0 word64 standard.baseMilliseconds =
    .ok choices.baseMilliseconds
  throttlingBase :
    group.read "throttling_base_delay_ms" 1 word64 standard.throttlingBaseMilliseconds =
      .ok choices.throttlingBaseMilliseconds
  maximum : group.read "max_delay_ms" 2 word64 standard.maxMilliseconds =
    .ok choices.maxMilliseconds
  attempts : group.read "max_attempts" 3 word32 standard.maxAttempts = .ok choices.maxAttempts
  jitter : group.read "jitter_percent" 4 word8 standard.jitterPercent = .ok choices.jitterPercent

theorem Backoff.readFrom_of_ofSetting {entries : Entries Setting} {choices : Backoff}
    (isRead : Backoff.ofSetting (.table origin entries) = .ok choices) :
    Backoff.ReadFrom (.named entries) choices := by
  obtain ⟨group, isGroup, isRead⟩ := exists_of_bind_eq_ok isRead
  cases isGroup
  obtain ⟨base, isBase, isRead⟩ := exists_of_bind_eq_ok isRead
  obtain ⟨throttlingBase, isThrottlingBase, isRead⟩ := exists_of_bind_eq_ok isRead
  obtain ⟨maximum, isMaximum, isRead⟩ := exists_of_bind_eq_ok isRead
  obtain ⟨attempts, isAttempts, isRead⟩ := exists_of_bind_eq_ok isRead
  obtain ⟨jitter, isJitter, isChoices⟩ := exists_of_bind_eq_ok isRead
  cases isChoices
  exact ⟨isBase, isThrottlingBase, isMaximum, isAttempts, isJitter⟩

/-- A group of choices that was read has read each of them. -/
structure Clock.ReadFrom (group : Group) (choices : Clock) : Prop where
  statuses : group.read "sensitive_status_codes" 0 (list word16) standard.sensitiveStatuses =
    .ok choices.sensitiveStatuses
  threshold : group.read "threshold_secs" 1 integer standard.thresholdSeconds =
    .ok choices.thresholdSeconds
  onAnyStatus : group.read "possible_skew_codes_on_any_status" 2 boolean
    standard.possibleCodesOnAnyStatus = .ok choices.possibleCodesOnAnyStatus

theorem Clock.readFrom_of_ofSetting {entries : Entries Setting} {choices : Clock}
    (isRead : Clock.ofSetting (.table origin entries) = .ok choices) :
    Clock.ReadFrom (.named entries) choices := by
  obtain ⟨group, isGroup, isRead⟩ := exists_of_bind_eq_ok isRead
  cases isGroup
  obtain ⟨statuses, isStatuses, isRead⟩ := exists_of_bind_eq_ok isRead
  obtain ⟨threshold, isThreshold, isRead⟩ := exists_of_bind_eq_ok isRead
  obtain ⟨onAnyStatus, isOnAnyStatus, isChoices⟩ := exists_of_bind_eq_ok isRead
  cases isChoices
  exact ⟨isStatuses, isThreshold, isOnAnyStatus⟩

/-- A configuration that was read has read its two groups. -/
theorem ofEntries_eq_ok {entries : Entries Setting} {config : Config}
    (isRead : ofEntries entries = .ok config) :
    Group.read (.named entries) "strategy" 0 Backoff.ofSetting Backoff.standard =
        .ok config.backoff ∧
      Group.read (.named entries) "clock_skew" 1 Clock.ofSetting Clock.standard =
        .ok config.clock := by
  obtain ⟨backoff, isBackoff, isRead⟩ := exists_of_bind_eq_ok isRead
  obtain ⟨clock, isClock, isConfig⟩ := exists_of_bind_eq_ok isRead
  cases isConfig
  exact ⟨isBackoff, isClock⟩

end Triage.Config

import Triage.Config.Load
import Triage.Proofs.Config.Decode

/-!
# Valid configurations

A configuration is valid when it has no fault, and every configuration that is loaded is
valid.  A valid configuration gives the strategy that it chooses.  It gives the policy
that it chooses as long as its threshold is a span, which the check does not ask for: a
threshold of more seconds than the longest span has is valid and gives no policy.
-/

namespace Triage.Config

open Triage.Retry Triage.Skew Triage.Time

variable {config result : Config}

/-! ## Validity -/

/-- What a configuration without a fault promises. -/
theorem fault?_eq_none_iff :
    config.fault? = none ↔
      config.backoff.maxAttempts ≠ 0 ∧
        config.backoff.baseMilliseconds ≤ config.backoff.maxMilliseconds ∧
        config.backoff.jitterPercent ≤ 100 ∧ 0 ≤ config.clock.thresholdSeconds := by
  rw [fault?, ← UInt64.not_lt, ← UInt8.not_lt, ← Int64.not_lt]
  split
  · simp_all
  · split
    · simp_all
    · split
      · simp_all
      · split <;> simp_all

theorem checked_eq_ok_iff :
    checked config = .ok result ↔ config = result ∧ config.fault? = none := by
  unfold checked
  split <;> simp_all

/-- Settings make a configuration when all of them have a place, the tree is read and its
configuration is valid. -/
theorem exists_tree_of_ofSettings {settings : List (String × Setting)}
    (loaded : ofSettings settings = .ok config) :
    ∃ tree, Setting.emptyTable.putAll? settings = some tree ∧
      ofEntries tree.asTable.2 = .ok config ∧ config.fault? = none := by
  unfold ofSettings at loaded
  split at loaded
  · contradiction
  · rename_i tree isTree
    obtain ⟨decoded, isDecoded, isChecked⟩ := exists_of_bind_eq_ok loaded
    obtain ⟨rfl, valid⟩ := checked_eq_ok_iff.mp isChecked
    exact ⟨tree, isTree, mapError_eq_ok_iff.mp isDecoded, valid⟩

theorem exists_entries_of_documentSettings {origin : Option Origin} {text : String}
    {settings : List (String × Setting)} (isRead : documentSettings origin text = .ok settings) :
    ∃ entries, Toml.read? text = some entries ∧
      Setting.entriesOfToml origin entries = settings := by
  unfold documentSettings at isRead
  split at isRead
  · rename_i entries isDocument
    exact ⟨entries, isDocument, Except.ok.inj isRead⟩
  · contradiction

/-- A configuration that was loaded from a document, or from a path with an environment
laid over it. -/
inductive IsLoaded (config : Config) : Prop where
  | document (text : String) (loaded : ofText text = .ok config)
  | path (lookUp : String → Target) (word : String) (environment : List Variable)
      (path : List UInt8) (loaded : loadBytes lookUp word environment path = .ok config)

theorem fault?_of_ofText {text : String} (loaded : ofText text = .ok config) :
    config.fault? = none := by
  obtain ⟨settings, -, isMade⟩ := exists_of_bind_eq_ok loaded
  obtain ⟨tree, -, -, valid⟩ := exists_tree_of_ofSettings isMade
  exact valid

theorem fault?_of_ofFile {word name text : String} {environment : List Variable}
    (loaded : ofFile word environment name text = .ok config) : config.fault? = none := by
  obtain ⟨settings, -, isMade⟩ := exists_of_bind_eq_ok loaded
  obtain ⟨tree, -, -, valid⟩ := exists_tree_of_ofSettings isMade
  exact valid

/-- Every configuration that is loaded is valid. -/
theorem IsLoaded.fault?_eq_none (isLoaded : IsLoaded config) : config.fault? = none := by
  cases isLoaded with
  | document text loaded => exact fault?_of_ofText loaded
  | path lookUp word environment path loaded =>
      unfold loadBytes at loaded
      split at loaded
      · contradiction
      · unfold load at loaded
        split at loaded
        · contradiction
        · contradiction
        · exact fault?_of_ofFile loaded

/-! ## Policies -/

/-- The longest span has this many whole seconds. -/
abbrev maxSpanSeconds : Int := 9223372036854775

theorem exists_ofSeconds?_iff {seconds : Int} (notNegative : 0 ≤ seconds) :
    (∃ span, Span.ofSeconds? seconds = some span) ↔ seconds ≤ maxSpanSeconds := by
  simp only [Span.ofSeconds?, Span.ofNanoseconds?_eq_some_iff, maxSpanSeconds]
  constructor
  · rintro ⟨span, isSeconds⟩
    have upper := span.upper
    simp only [Span.limit] at upper
    omega
  · intro inRange
    refine ⟨⟨seconds * 1000000000, ?_, ?_⟩, rfl⟩
    all_goals
      simp only [Span.limit]
      omega

/-- The policy carries the choices, and its threshold is not negative. -/
structure Carries (config : Config) (policy : Policy) : Prop where
  sensitiveStatuses : policy.sensitiveStatuses = config.clock.sensitiveStatuses
  threshold : policy.threshold.nanoseconds = config.clock.thresholdSeconds.toInt * 1000000000
  threshold_nonneg : 0 ≤ policy.threshold.nanoseconds
  possibleCodesOnAnyStatus :
    policy.possibleCodesOnAnyStatus = config.clock.possibleCodesOnAnyStatus

theorem exists_policy?_iff (notNegative : 0 ≤ config.clock.thresholdSeconds.toInt) :
    (∃ policy, config.policy? = some policy) ↔
      config.clock.thresholdSeconds.toInt ≤ maxSpanSeconds := by
  rw [← exists_ofSeconds?_iff notNegative, policy?]
  cases Span.ofSeconds? config.clock.thresholdSeconds.toInt <;> simp

theorem carries_of_policy? {policy : Policy}
    (notNegative : 0 ≤ config.clock.thresholdSeconds.toInt)
    (chosen : config.policy? = some policy) : config.Carries policy := by
  rcases Option.map_eq_some_iff.mp chosen with ⟨span, isSpan, rfl⟩
  have isSeconds := Span.ofNanoseconds?_eq_some_iff.mp isSpan
  have absolute :
      span.abs.nanoseconds = config.clock.thresholdSeconds.toInt * 1000000000 := by
    rw [Span.abs_nanoseconds]
    omega
  exact {
    sensitiveStatuses := rfl
    threshold := absolute
    threshold_nonneg := Int.natCast_nonneg _
    possibleCodesOnAnyStatus := rfl }

/-! ## Use -/

/-- A valid configuration, and every configuration that is loaded, gives the strategy
with the values that it chooses.  It gives a policy, which carries the choices, exactly
when its threshold has no more seconds than the longest span. -/
theorem valid_configurations_usable_up_to_longest_span (config : Config)
    (valid : config.fault? = none ∨ IsLoaded config) :
    config.fault? = none ∧
      config.strategy.baseDelay.nanoseconds =
        config.backoff.baseMilliseconds.toNat * 1000000 ∧
      config.strategy.throttlingBaseDelay.nanoseconds =
        config.backoff.throttlingBaseMilliseconds.toNat * 1000000 ∧
      config.strategy.maxDelay.nanoseconds =
        config.backoff.maxMilliseconds.toNat * 1000000 ∧
      config.strategy.maxAttempts = config.backoff.maxAttempts ∧
      config.strategy.jitterPercent = config.backoff.jitterPercent ∧
      ((∃ policy, config.policy? = some policy) ↔
        config.clock.thresholdSeconds.toInt ≤ maxSpanSeconds) ∧
      ∀ policy, config.policy? = some policy → config.Carries policy := by
  have faultless : config.fault? = none := valid.elim id IsLoaded.fault?_eq_none
  rcases fault?_eq_none_iff.mp faultless with ⟨-, -, -, threshold_nonneg⟩
  have notNegative : 0 ≤ config.clock.thresholdSeconds.toInt :=
    Int64.le_iff_toInt_le.mp threshold_nonneg
  exact ⟨faultless, rfl, rfl, rfl, rfl, rfl, exists_policy?_iff notNegative,
    fun policy chosen => carries_of_policy? notNegative chosen⟩

/-- The standard configuration with another threshold. -/
def withThreshold (seconds : Int64) : Config :=
  ⟨Backoff.standard, { Clock.standard with thresholdSeconds := seconds }⟩

theorem valid_configurations_usable_up_to_longest_span_longest :
    (withThreshold 9223372036854775).fault? = none ∧
      ∃ policy, (withThreshold 9223372036854775).policy? = some policy ∧
        policy.threshold.nanoseconds = 9223372036854775000000000 := by
  have valid : (withThreshold 9223372036854775).fault? = none := by decide
  obtain ⟨-, -, -, -, -, -, isChosen, carries⟩ :=
    valid_configurations_usable_up_to_longest_span _ (.inl valid)
  obtain ⟨policy, chosen⟩ := isChosen.mpr (by decide)
  exact ⟨valid, policy, chosen, (carries policy chosen).threshold.trans (by decide)⟩

/-- One second more is loaded and valid, and gives no policy. -/
theorem second_beyond_longest_span_has_no_policy :
    (ofText "[clock_skew]\nthreshold_secs = 9223372036854776\n").toOption =
        some (withThreshold 9223372036854776) ∧
      (withThreshold 9223372036854776).fault? = none ∧
      (withThreshold 9223372036854776).policy? = none := by
  refine ⟨by decide +kernel, by decide, by decide⟩

end Triage.Config

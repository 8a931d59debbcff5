import Triage.Proofs.Retry.EventTrail
import Triage.Proofs.Time.Shift

/-!
# The kinds of failures

The kind of a failure is the first of three that applies: a wrong clock, throttling, and a
passing disturbance, or else the failure is fatal.  The codes that allow another attempt are
those of all three together, so that once the first two are ruled out a code allows another
attempt exactly when it is one of a passing disturbance.
-/

namespace Triage.ServiceFailure

open Triage.Log Triage.Skew Triage.Time

variable {failure : ServiceFailure} {now : Instant} {skewed : Bool}

/-! ## Flags -/

/-- The service asks for fewer requests, by its status or by its code. -/
def AsksForFewer (failure : ServiceFailure) : Prop :=
  failure.status = 429 ∨ failure.details.code ∈ ErrorCode.throttling

/-- A passing disturbance, by the code or by the status. -/
def IsPassing (failure : ServiceFailure) : Prop :=
  failure.details.code ∈ ErrorCode.transient ∨ 500 ≤ failure.status

theorem isThrottling_iff : failure.isThrottling = true ↔ failure.AsksForFewer := by
  rw [isThrottling, Bool.or_eq_true, decide_eq_true_iff, ErrorCode.isThrottling,
    List.contains_iff_mem]
  rfl

/-- Another attempt is allowed for one of three reasons. -/
theorem isRetryable_iff :
    failure.isRetryable = true ↔
      failure.AsksForFewer ∨ failure.details.code ∈ ErrorCode.definiteSkew ∨
        failure.IsPassing := by
  have byCode : ErrorCode.isRetryable failure.details.code = true ↔
      failure.details.code ∈ ErrorCode.throttling ∨
        failure.details.code ∈ ErrorCode.definiteSkew ∨
          failure.details.code ∈ ErrorCode.transient := by
    rw [ErrorCode.isRetryable_eq, Bool.or_eq_true, Bool.or_eq_true, or_assoc]
    exact or_congr List.contains_iff_mem (or_congr List.contains_iff_mem List.contains_iff_mem)
  rw [isRetryable, Bool.or_eq_true, Bool.or_eq_true, byCode, isThrottling_iff,
    decide_eq_true_iff, AsksForFewer, IsPassing]
  constructor
  · rintro (((throttled | certain | passing) | throttled) | passing)
    · exact .inl (.inr throttled)
    · exact .inr (.inl certain)
    · exact .inr (.inr (.inl passing))
    · exact .inl throttled
    · exact .inr (.inr (.inr passing))
  · rintro ((byStatus | throttled) | certain | passing | passing)
    · exact .inl (.inr (.inl byStatus))
    · exact .inl (.inr (.inr throttled))
    · exact .inl (.inl (.inr (.inl certain)))
    · exact .inl (.inl (.inr (.inr passing)))
    · exact .inr passing

/-! ## Wrong clocks -/

/-- A clock is judged whenever the estimate of the service's clock stays in the calendar. -/
theorem exists_isClockSkew?_of_sub? {estimate : Instant}
    (goneBack : now.sub? failure.clockOffset = some estimate) :
    ∃ skewed, failure.isClockSkew? now = some skewed :=
  failure.policy.exists_isSkewed? (failure.observation now) goneBack

theorem isClockSkew?_of_definiteSkew (now : Instant)
    (certain : failure.details.code ∈ ErrorCode.definiteSkew) :
    failure.isClockSkew? now = some true :=
  Policy.isSkewed?_of_isDefiniteSkew (List.contains_iff_mem.mpr certain)

theorem not_definiteSkew_of_cleared (cleared : failure.isClockSkew? now = some false) :
    failure.details.code ∉ ErrorCode.definiteSkew := by
  intro certain
  rw [isClockSkew?_of_definiteSkew now certain] at cleared
  contradiction

/-- A clock is wrong by the code or by what the clocks show. -/
theorem definiteSkew_or_measuresSkew (wrong : failure.isClockSkew? now = some true) :
    failure.details.code ∈ ErrorCode.definiteSkew ∨ failure.MeasuresSkew now := by
  by_cases certain : failure.details.code ∈ ErrorCode.definiteSkew
  · exact .inl certain
  · have uncertain : ErrorCode.isDefiniteSkew failure.details.code = false := by
      rwa [← Bool.not_eq_true, ErrorCode.isDefiniteSkew, List.contains_iff_mem]
    rcases Policy.isSkewed?_eq_some_true_iff.mp wrong with certain' | measured
    · exact absurd (List.contains_iff_mem.mp certain') certain
    · exact .inr ⟨uncertain, measured⟩

/-! ## Kinds -/

/-- The kind with its events is the kind. -/
theorem value_classify? (failure : ServiceFailure) (now : Instant) :
    (failure.classify? now).map Logged.value = failure.kind? now := by
  rw [classify?, kind?, Option.map_map]
  rfl

/-- Once the clock is cleared and the service asks for no fewer requests, only a passing
disturbance allows another attempt. -/
theorem isRetryable_iff_isPassing (cleared : failure.isClockSkew? now = some false)
    (unthrottled : ¬ failure.AsksForFewer) :
    failure.isRetryable = true ↔ failure.IsPassing := by
  rw [isRetryable_iff, or_iff_right unthrottled,
    or_iff_right (not_definiteSkew_of_cleared cleared)]

/-- The four kinds, of which every failure with a judged clock has exactly one. -/
theorem kind?_cases (judged : failure.isClockSkew? now = some skewed) :
    (skewed = true ∧ failure.kind? now = some .clockSkew) ∨
    (skewed = false ∧ failure.AsksForFewer ∧ failure.kind? now = some .throttling) ∨
    (skewed = false ∧ ¬ failure.AsksForFewer ∧ failure.IsPassing ∧
      failure.kind? now = some .transient) ∨
    (skewed = false ∧ ¬ failure.AsksForFewer ∧ ¬ failure.IsPassing ∧
      failure.kind? now = some .fatal) := by
  rw [kind?_of_isClockSkew? judged]
  cases skewed with
  | true => exact .inl ⟨rfl, rfl⟩
  | false =>
      by_cases throttled : failure.AsksForFewer
      · rw [if_neg Bool.false_ne_true, if_pos (isThrottling_iff.mpr throttled)]
        exact .inr (.inl ⟨rfl, throttled, rfl⟩)
      · have retryable_iff := isRetryable_iff_isPassing judged throttled
        rw [if_neg Bool.false_ne_true, if_neg fun flag => throttled (isThrottling_iff.mp flag)]
        by_cases passing : failure.IsPassing
        · rw [if_pos (retryable_iff.mpr passing)]
          exact .inr (.inr (.inl ⟨rfl, throttled, passing, rfl⟩))
        · rw [if_neg fun flag => passing (retryable_iff.mp flag)]
          exact .inr (.inr (.inr ⟨rfl, throttled, passing, rfl⟩))

/-- Each kind has its own condition, and no two kinds have theirs at once. -/
theorem kind_iff_condition {kind : FailureKind} (judged : failure.isClockSkew? now = some skewed)
    (isKind : failure.kind? now = some kind) :
    (kind = .clockSkew ↔ skewed = true) ∧
    (kind = .throttling ↔ skewed = false ∧ failure.AsksForFewer) ∧
    (kind = .transient ↔ skewed = false ∧ ¬ failure.AsksForFewer ∧ failure.IsPassing) ∧
    (kind = .fatal ↔ skewed = false ∧ ¬ failure.AsksForFewer ∧ ¬ failure.IsPassing) := by
  rcases kind?_cases judged with
    ⟨rfl, row⟩ | ⟨rfl, throttled, row⟩ | ⟨rfl, unthrottled, passing, row⟩ |
    ⟨rfl, unthrottled, lasting, row⟩
  all_goals obtain rfl := Option.some.inj (isKind.symm.trans row)
  · simp
  · simp [throttled]
  · simp [unthrottled, passing]
  · simp [unthrottled, lasting]

/-- A code that is certain about the clock leaves no other kind. -/
theorem kind_of_definiteSkew {kind : FailureKind} (isKind : failure.kind? now = some kind)
    (certain : failure.details.code ∈ ErrorCode.definiteSkew) : kind = .clockSkew := by
  rw [kind?_of_isClockSkew? (isClockSkew?_of_definiteSkew now certain), if_pos rfl] at isKind
  exact (Option.some.inj isKind).symm

theorem mem_retryable_of_mem_definiteSkew {code : String}
    (certain : code ∈ ErrorCode.definiteSkew) : code ∈ ErrorCode.retryable := by
  rw [ErrorCode.retryable_eq]
  exact List.mem_append_left _ (List.mem_append_right _ certain)

/-- A failure that is not fatal allows another attempt, unless its clock was found wrong by
the clocks alone. -/
theorem isRetryable_of_kind_ne_fatal {kind : FailureKind} (isKind : failure.kind? now = some kind)
    (notFatal : kind ≠ .fatal) (notMeasured : ¬ (kind = .clockSkew ∧ failure.MeasuresSkew now)) :
    failure.isRetryable = true := by
  obtain ⟨skewed, judged⟩ := exists_isClockSkew?_of_kind? isKind
  rw [isRetryable_iff]
  rcases kind?_cases judged with
    ⟨rfl, row⟩ | ⟨-, throttled, -⟩ | ⟨-, -, passing, -⟩ | ⟨-, -, -, row⟩
  · obtain rfl := Option.some.inj (isKind.symm.trans row)
    rcases definiteSkew_or_measuresSkew judged with certain | measured
    · exact .inr (.inl certain)
    · exact absurd ⟨rfl, measured⟩ notMeasured
  · exact .inl throttled
  · exact .inr (.inr passing)
  · exact absurd (Option.some.inj (isKind.symm.trans row)) notFatal

/-- Every failure whose clock is judged, which it is whenever the estimate of the service's
clock stays in the calendar, has the first kind that applies: a wrong clock, throttling by
the status 429 or by the code, a passing disturbance by the code or by a status of 500 and
above, or else it is fatal.  So a code that is certain about the clock never makes it passing
or fatal, and every kind but a fatal one allows another attempt, except for a clock that was
found wrong by the clocks alone. -/
theorem kind_is_first_that_applies (failure : ServiceFailure) (now : Instant) :
    (∀ estimate, now.sub? failure.clockOffset = some estimate →
      ∃ skewed, failure.isClockSkew? now = some skewed) ∧
    ∀ skewed, failure.isClockSkew? now = some skewed →
      ∃ kind, (failure.classify? now).map Logged.value = some kind ∧
        failure.kind? now = some kind ∧
        (kind = .clockSkew ↔ skewed = true) ∧
        (kind = .throttling ↔ skewed = false ∧ failure.AsksForFewer) ∧
        (kind = .transient ↔ skewed = false ∧ ¬ failure.AsksForFewer ∧ failure.IsPassing) ∧
        (kind = .fatal ↔ skewed = false ∧ ¬ failure.AsksForFewer ∧ ¬ failure.IsPassing) ∧
        (failure.details.code ∈ ErrorCode.definiteSkew →
          failure.details.code ∈ ErrorCode.retryable ∧ kind ≠ .transient ∧ kind ≠ .fatal) ∧
        (failure.isThrottling = true → failure.isRetryable = true) ∧
        (kind ≠ .fatal → ¬ (kind = .clockSkew ∧ failure.MeasuresSkew now) →
          failure.isRetryable = true) := by
  refine ⟨fun estimate => exists_isClockSkew?_of_sub?, ?_⟩
  intro skewed judged
  obtain ⟨kind, isKind⟩ : ∃ kind, failure.kind? now = some kind :=
    ⟨_, kind?_of_isClockSkew? judged⟩
  have ofCertain (certain : failure.details.code ∈ ErrorCode.definiteSkew) :
      failure.details.code ∈ ErrorCode.retryable ∧ kind ≠ .transient ∧ kind ≠ .fatal := by
    rw [kind_of_definiteSkew isKind certain]
    exact ⟨mem_retryable_of_mem_definiteSkew certain, by decide, by decide⟩
  obtain ⟨clockSkew, throttling, transient, fatal⟩ := kind_iff_condition judged isKind
  exact ⟨kind, (value_classify? failure now).trans isKind, isKind, clockSkew, throttling,
    transient, fatal, ofCertain, isRetryable_of_isThrottling,
    isRetryable_of_kind_ne_fatal isKind⟩

/-- A service whose clock is an hour ahead of the start of 1970 refuses a request. -/
def lateRequest : ServiceFailure :=
  ofAnswer "AccessDenied" 403 (some "Thu, 01 Jan 1970 01:00:00 GMT")

/-- The late request is put down to the clock and does not allow another attempt by itself, so
that it must be the clocks that found the clock wrong. -/
theorem kind_is_first_that_applies_lateRequest :
    Retry.Strategy.epoch.sub? lateRequest.clockOffset = some Retry.Strategy.epoch ∧
      lateRequest.kind? Retry.Strategy.epoch = some .clockSkew ∧
      lateRequest.isRetryable = false ∧ lateRequest.MeasuresSkew Retry.Strategy.epoch := by
  have goneBack : Retry.Strategy.epoch.sub? lateRequest.clockOffset = some Retry.Strategy.epoch :=
    Instant.sub?_zero _
  have wrong : lateRequest.isClockSkew? Retry.Strategy.epoch = some true := by decide +kernel
  have fatalElse : lateRequest.isRetryable = false := by decide
  obtain ⟨judges, kinds⟩ := kind_is_first_that_applies lateRequest Retry.Strategy.epoch
  obtain ⟨skewed, judged⟩ := judges _ goneBack
  obtain ⟨kind, -, isKind, skew_iff, -, -, -, -, -, retryable⟩ := kinds skewed judged
  obtain rfl := skew_iff.mpr (Option.some.inj (judged.symm.trans wrong))
  refine ⟨goneBack, isKind, fatalElse, ?_⟩
  apply Classical.byContradiction
  intro notMeasured
  have allowed := retryable (by decide) fun measured => notMeasured measured.2
  rw [fatalElse] at allowed
  contradiction

end Triage.ServiceFailure

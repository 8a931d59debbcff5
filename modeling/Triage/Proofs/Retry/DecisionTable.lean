import Triage.Proofs.FailureKind
import Triage.Retry.Decision

/-!
# The decision table

Two flags of a failure, the number of the attempt and whether the service's time is
known decide what happens next.  Each row of the table is a lemma; the whole table
says for every decision exactly when it is taken.
-/

namespace Triage.Retry.Strategy

open Triage.Log Triage.Skew Triage.Time

variable {strategy : Strategy} {attempt : UInt32} {failure : ServiceFailure}
  {now : Instant} {skewed : Bool}

/-- The decision with its events is the decision. -/
theorem value_decideLogged? (strategy : Strategy) (attempt : UInt32)
    (failure : ServiceFailure) (now : Instant) :
    (strategy.decideLogged? attempt failure now).map Logged.value =
      strategy.decide? attempt failure now := by
  rw [decideLogged?, decide?, ServiceFailure.classify?, ServiceFailure.kind?, Option.map_map,
    Option.map_map, Option.map_map]
  rfl

/-- The base of the delay of a failure that is tried again. -/
def baseAfter (strategy : Strategy) (skewed : Bool) (failure : ServiceFailure) : Delay :=
  if skewed = false ∧ failure.isThrottling = true then strategy.throttlingBaseDelay
  else strategy.baseDelay

/-! ## Rows -/

/-- Neither a wrong clock nor another reason to try again. -/
theorem decide?_of_not_isRetryable (judged : failure.isClockSkew? now = some false)
    (fatal : failure.isRetryable = false) :
    strategy.decide? attempt failure now = some (.giveUp .notRetryable) := by
  rw [decide?, ServiceFailure.kind?_of_isClockSkew? judged]
  cases throttled : failure.isThrottling with
  | true =>
      rw [ServiceFailure.isRetryable_of_isThrottling throttled] at fatal
      contradiction
  | false => simp [fatal, decideKind]

/-- Another attempt would be worth it, but all have been made. -/
theorem decide?_of_maxAttempts_le (judged : failure.isClockSkew? now = some skewed)
    (worthIt : skewed = true ∨ failure.isRetryable = true)
    (exhausted : strategy.maxAttempts ≤ attempt) :
    strategy.decide? attempt failure now = some (.giveUp .attemptsExhausted) := by
  rw [decide?, ServiceFailure.kind?_of_isClockSkew? judged]
  cases skewed with
  | true => simp [decideKind, exhausted]
  | false =>
      have retryable : failure.isRetryable = true := by simpa using worthIt
      cases throttled : failure.isThrottling <;>
        simp [retryable, decideKind, exhausted]

/-- A wrong clock is corrected by the service's time. -/
theorem decide?_of_serverTime? {server : Instant}
    (judged : failure.isClockSkew? now = some true)
    (allowed : ¬ strategy.maxAttempts ≤ attempt)
    (known : failure.serverTime? = some server) :
    strategy.decide? attempt failure now =
      some (.retryWithClockSkew Delay.zero (clockSkew now server)) := by
  rw [decide?, ServiceFailure.kind?_of_isClockSkew? judged]
  simp [decideKind, allowed, known]

/-- A wrong clock that cannot be corrected waits like an ordinary failure; the way
out for failures that are not retryable is never taken. -/
theorem decide?_of_serverTime?_eq_none (judged : failure.isClockSkew? now = some true)
    (allowed : ¬ strategy.maxAttempts ≤ attempt) (unknown : failure.serverTime? = none) :
    strategy.decide? attempt failure now =
      some (.retry (strategy.backoff (strategy.baseAfter true failure) attempt)) := by
  have retryable := ServiceFailure.isRetryable_of_serverTime?_eq_none judged unknown
  rw [decide?, ServiceFailure.kind?_of_isClockSkew? judged]
  simp [decideKind, allowed, unknown, retryable, baseAfter, delay]

/-- Without a wrong clock the delay depends on throttling. -/
theorem decide?_of_isRetryable (judged : failure.isClockSkew? now = some false)
    (retryable : failure.isRetryable = true) (allowed : ¬ strategy.maxAttempts ≤ attempt) :
    strategy.decide? attempt failure now =
      some (.retry (strategy.backoff (strategy.baseAfter false failure) attempt)) := by
  rw [decide?, ServiceFailure.kind?_of_isClockSkew? judged]
  cases throttled : failure.isThrottling <;>
    simp [retryable, decideKind, allowed, baseAfter, throttled, delayFor]

/-! ## The table -/

/-- The four rows of the table, of which every failure with a judged clock meets
exactly one. -/
theorem decide?_cases (strategy : Strategy) (attempt : UInt32)
    (judged : failure.isClockSkew? now = some skewed) :
    (skewed = false ∧ failure.isRetryable = false ∧
      strategy.decide? attempt failure now = some (.giveUp .notRetryable)) ∨
    ((skewed = true ∨ failure.isRetryable = true) ∧ strategy.maxAttempts ≤ attempt ∧
      strategy.decide? attempt failure now = some (.giveUp .attemptsExhausted)) ∨
    (∃ server, skewed = true ∧ attempt < strategy.maxAttempts ∧
      failure.serverTime? = some server ∧
      strategy.decide? attempt failure now =
        some (.retryWithClockSkew Delay.zero (clockSkew now server))) ∨
    ((skewed = true ∨ failure.isRetryable = true) ∧ attempt < strategy.maxAttempts ∧
      (skewed = true → failure.serverTime? = none) ∧
      strategy.decide? attempt failure now =
        some (.retry (strategy.backoff (strategy.baseAfter skewed failure) attempt))) := by
  by_cases worthIt : skewed = true ∨ failure.isRetryable = true
  · by_cases exhausted : strategy.maxAttempts ≤ attempt
    · exact .inr (.inl ⟨worthIt, exhausted, decide?_of_maxAttempts_le judged worthIt exhausted⟩)
    · have allowed := UInt32.not_le.mp exhausted
      cases skewed with
      | true =>
          cases known : failure.serverTime? with
          | some server =>
              exact .inr (.inr (.inl ⟨server, rfl, allowed, rfl,
                decide?_of_serverTime? judged exhausted known⟩))
          | none =>
              exact .inr (.inr (.inr ⟨worthIt, allowed, fun _ => rfl,
                decide?_of_serverTime?_eq_none judged exhausted known⟩))
      | false =>
          have retryable : failure.isRetryable = true := by simpa using worthIt
          exact .inr (.inr (.inr ⟨worthIt, allowed, fun impossible => by contradiction,
            decide?_of_isRetryable judged retryable exhausted⟩))
  · rw [not_or, Bool.not_eq_true, Bool.not_eq_true] at worthIt
    obtain ⟨rfl, fatal⟩ := worthIt
    exact .inl ⟨rfl, fatal, decide?_of_not_isRetryable judged fatal⟩

theorem exists_decide?_of_isClockSkew? (strategy : Strategy) (attempt : UInt32)
    (judged : failure.isClockSkew? now = some skewed) :
    ∃ decision, strategy.decide? attempt failure now = some decision := by
  rw [decide?, ServiceFailure.kind?_of_isClockSkew? judged]
  exact ⟨_, rfl⟩

/-- Another attempt is granted while one is left, to a wrong clock or a failure that allows
one. -/
theorem shouldRetry_iff_of_decide? {decision : Decision}
    (judged : failure.isClockSkew? now = some skewed)
    (decided : strategy.decide? attempt failure now = some decision) :
    decision.shouldRetry = true ↔
      attempt < strategy.maxAttempts ∧ (skewed = true ∨ failure.isRetryable = true) := by
  rcases decide?_cases strategy attempt judged with
    ⟨right, fatal, row⟩ | ⟨worthIt, exhausted, row⟩ | ⟨server, wrong, allowed, -, row⟩ |
    ⟨worthIt, allowed, -, row⟩
  all_goals
    obtain rfl := Option.some.inj (decided.symm.trans row)
  · simp [right, fatal, Decision.shouldRetry]
  · simp [UInt32.not_lt.mpr exhausted, Decision.shouldRetry]
  · simp [wrong, allowed, Decision.shouldRetry]
  · simp [worthIt, allowed, Decision.shouldRetry]

/-- A decision that hands out a correction comes from a wrong clock, an attempt left
and a known time of the service. -/
theorem decide?_eq_retryWithClockSkew_iff {delay : Delay} {skew : Span} :
    strategy.decide? attempt failure now = some (.retryWithClockSkew delay skew) ↔
      failure.isClockSkew? now = some true ∧ attempt < strategy.maxAttempts ∧
        delay = Delay.zero ∧
        ∃ server, failure.serverTime? = some server ∧ skew = clockSkew now server := by
  constructor
  · intro decided
    obtain ⟨kind, isKind, -⟩ := Option.map_eq_some_iff.mp decided
    obtain ⟨skewed, judged⟩ := ServiceFailure.exists_isClockSkew?_of_kind? isKind
    rcases decide?_cases strategy attempt judged with
      ⟨-, -, row⟩ | ⟨-, -, row⟩ | ⟨server, rfl, allowed, known, row⟩ | ⟨-, -, -, row⟩
    · simp [row] at decided
    · simp [row] at decided
    · obtain ⟨rfl, rfl⟩ : Delay.zero = delay ∧ clockSkew now server = skew := by
        simpa [row] using decided
      exact ⟨judged, allowed, rfl, server, known, rfl⟩
    · simp [row] at decided
  · rintro ⟨judged, allowed, rfl, server, known, rfl⟩
    exact decide?_of_serverTime? judged (UInt32.not_le.mpr allowed) known

/-- What is decided about a failure whose clock can be judged: nothing is tried again
without a reason, the last attempt ends the work, a wrong clock is corrected when the
service's time is known, and all else waits, from the throttling base when the
service asks for fewer requests and the clock is right. -/
theorem decision_table (strategy : Strategy) (attempt : UInt32) (failure : ServiceFailure)
    (now : Instant) (skewed : Bool) (judged : failure.isClockSkew? now = some skewed) :
    (∃ decision,
      strategy.decide? attempt failure now = some decision ∧
      (strategy.decideLogged? attempt failure now).map Logged.value = some decision ∧
      (decision = .giveUp .notRetryable ↔ skewed = false ∧ failure.isRetryable = false) ∧
      (decision = .giveUp .attemptsExhausted ↔
        (skewed = true ∨ failure.isRetryable = true) ∧ strategy.maxAttempts ≤ attempt) ∧
      ((∃ delay skew, decision = .retryWithClockSkew delay skew) ↔
        skewed = true ∧ attempt < strategy.maxAttempts ∧
          failure.serverTime?.isSome = true) ∧
      ((∃ delay, decision = .retry delay) ↔
        (skewed = true ∨ failure.isRetryable = true) ∧ attempt < strategy.maxAttempts ∧
          ¬ (skewed = true ∧ failure.serverTime?.isSome = true)) ∧
      (∀ delay, decision = .retry delay →
        delay = strategy.backoff
          (if skewed = false ∧ failure.isThrottling = true then strategy.throttlingBaseDelay
            else strategy.baseDelay) attempt) ∧
      (decision.shouldRetry = true ↔
        attempt < strategy.maxAttempts ∧ (skewed = true ∨ failure.isRetryable = true))) ∧
    (failure.kind? now = some .clockSkew → failure.serverTime? = none →
      failure.isRetryable = true) := by
  rw [value_decideLogged?]
  refine ⟨?_, ServiceFailure.isRetryable_of_kind?_eq_clockSkew⟩
  have notFatal (worthIt : skewed = true ∨ failure.isRetryable = true) :
      ¬ (skewed = false ∧ failure.isRetryable = false) := by
    rintro ⟨rfl, fatal⟩
    simp [fatal] at worthIt
  rcases decide?_cases strategy attempt judged with
    ⟨right, fatal, row⟩ | ⟨worthIt, exhausted, row⟩ | ⟨server, wrong, allowed, known, row⟩ |
    ⟨worthIt, allowed, unknown, row⟩
  · refine ⟨_, row, row, ?_⟩
    simp [right, fatal, Decision.shouldRetry]
  · refine ⟨_, row, row, ?_⟩
    have notAllowed : ¬ attempt < strategy.maxAttempts := UInt32.not_lt.mpr exhausted
    simp [worthIt, exhausted, notAllowed, notFatal worthIt, Decision.shouldRetry]
  · refine ⟨_, row, row, ?_⟩
    have notExhausted : ¬ strategy.maxAttempts ≤ attempt := UInt32.not_le.mpr allowed
    simp [wrong, allowed, notExhausted, known, Decision.shouldRetry]
  · refine ⟨_, row, row, ?_⟩
    have notExhausted : ¬ strategy.maxAttempts ≤ attempt := UInt32.not_le.mpr allowed
    have notCorrected : ¬ (skewed = true ∧ failure.serverTime?.isSome = true) := by
      rintro ⟨wrong, known⟩
      simp [unknown wrong] at known
    refine ⟨?_, ?_, ?_, ?_, ?_, ?_⟩
    · simpa using notFatal worthIt
    · simp [notExhausted]
    · simpa [allowed] using notCorrected
    · simpa [worthIt, allowed] using notCorrected
    · rintro delay same
      cases same
      rfl
    · simp [worthIt, allowed, Decision.shouldRetry]

/-- A request that came too late according to the service, which gives no time. -/
def undated : ServiceFailure := ServiceFailure.ofAnswer "RequestExpired" 403 none

/-- The start of 1970. -/
def epoch : Instant := (Instant.ofParts? 0 0 0).get rfl

theorem decision_table_undated :
    undated.isClockSkew? epoch = some true ∧
      standard.decide? 1 undated epoch =
        some (.retry (standard.backoff standard.baseDelay 1)) := by
  have judged : undated.isClockSkew? epoch = some true := by decide
  obtain ⟨⟨decision, decided, -, -, -, -, retries, delays, -⟩, -⟩ :=
    decision_table standard 1 undated epoch true judged
  obtain ⟨delay, rfl⟩ := retries.mpr (by decide)
  refine ⟨judged, ?_⟩
  rw [decided, delays delay rfl]
  rfl

end Triage.Retry.Strategy

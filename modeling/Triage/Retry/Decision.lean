import Triage.Retry.Strategy
import Triage.ServiceFailure

/-!
# Deciding on another attempt

A fatal failure ends the work at once, and so does the last allowed attempt.  A
failure put down to a wrong clock is tried again without delay and with the
measured skew as the new belief about the clock; when the service's time is not
known, it is treated like any other failure.  All else waits as long as the
strategy says.
-/

namespace Triage.Retry

open Triage.Log Triage.Skew Triage.Time

/-- Why there is no further attempt. -/
inductive GiveUpReason where
  | notRetryable
  | attemptsExhausted
deriving DecidableEq, Repr

/-- What to do after a failed attempt. -/
inductive Decision where
  | retry (delay : Delay)
  | retryWithClockSkew (delay : Delay) (clockSkew : Span)
  | giveUp (reason : GiveUpReason)
deriving DecidableEq

namespace Decision

/-- There is another attempt. -/
def shouldRetry : Decision → Bool
  | retry _ => true
  | retryWithClockSkew _ _ => true
  | giveUp _ => false

/-- How long to wait for the next attempt. -/
def delay? : Decision → Option Delay
  | retry delay => some delay
  | retryWithClockSkew delay _ => some delay
  | giveUp _ => none

/-- The belief about the clock for the next attempt, when it changes. -/
def clockSkew? : Decision → Option Span
  | retryWithClockSkew _ clockSkew => some clockSkew
  | _ => none

/-- The name of the decision. -/
def name : Decision → String
  | retry _ => "retry"
  | retryWithClockSkew _ _ => "retry-with-clock-skew"
  | giveUp .notRetryable => "not-retryable"
  | giveUp .attemptsExhausted => "attempts-exhausted"

end Decision

namespace Strategy

/-- Decide about a failure of known kind. -/
def decideKind (strategy : Strategy) (attempt : UInt32) (kind : FailureKind)
    (failure : ServiceFailure) (now : Instant) : Decision :=
  match kind with
  | .fatal => .giveUp .notRetryable
  | .clockSkew =>
      if strategy.maxAttempts ≤ attempt then
        .giveUp .attemptsExhausted
      else
        match failure.serverTime? with
        | some serverTime => .retryWithClockSkew Delay.zero (clockSkew now serverTime)
        | none =>
            if failure.isRetryable then .retry (strategy.delay attempt)
            else .giveUp .notRetryable
  | kind =>
      if strategy.maxAttempts ≤ attempt then
        .giveUp .attemptsExhausted
      else
        .retry (strategy.delayFor attempt kind)

/-- Decide about a failure; none when its clock cannot be judged. -/
def decide? (strategy : Strategy) (attempt : UInt32) (failure : ServiceFailure)
    (now : Instant) : Option Decision :=
  (failure.kind? now).map fun kind => strategy.decideKind attempt kind failure now

/-- The events of the decision itself: the service's time is read once more when a
wrong clock is to be corrected. -/
def decisionEvents (strategy : Strategy) (attempt : UInt32) (kind : FailureKind)
    (failure : ServiceFailure) (decision : Decision) : List Event :=
  (if kind = .clockSkew ∧ attempt < strategy.maxAttempts then failure.dateEvents else []) ++
    match decision with
    | .retry delay => [.retrying attempt delay kind]
    | .retryWithClockSkew _ clockSkew => [.retryingWithClockSkew attempt clockSkew]
    | .giveUp .attemptsExhausted => [.gaveUp attempt strategy.maxAttempts kind]
    | .giveUp .notRetryable => []

/-- Decide about a failure, with the events. -/
def decideLogged? (strategy : Strategy) (attempt : UInt32) (failure : ServiceFailure)
    (now : Instant) : Option (Logged Decision) :=
  (failure.classify? now).map fun classified =>
    let decision := strategy.decideKind attempt classified.value failure now
    ⟨decision, classified.events ++
      strategy.decisionEvents attempt classified.value failure decision⟩

end Strategy

end Triage.Retry

import Triage.Retry.Strategy
import Triage.Skew.Policy

/-!
# Configurations

A configuration chooses a strategy for further attempts and a policy for wrong
clocks.  Its numbers have the ranges of the words that hold them; a check says
whether they make sense together.
-/

namespace Triage

open Triage.Retry Triage.Skew Triage.Time

namespace Config

/-- The choices for delays and attempts. -/
structure Backoff where
  baseMilliseconds : UInt64
  throttlingBaseMilliseconds : UInt64
  maxMilliseconds : UInt64
  maxAttempts : UInt32
  jitterPercent : UInt8
deriving DecidableEq

/-- The choices for wrong clocks. -/
structure Clock where
  sensitiveStatuses : List UInt16
  thresholdSeconds : Int64
  possibleCodesOnAnyStatus : Bool
deriving DecidableEq

/-- The choices of the standard strategy. -/
def Backoff.standard : Backoff where
  baseMilliseconds := Strategy.standard.baseDelay.millisecondsWord
  throttlingBaseMilliseconds := Strategy.standard.throttlingBaseDelay.millisecondsWord
  maxMilliseconds := Strategy.standard.maxDelay.millisecondsWord
  maxAttempts := Strategy.standard.maxAttempts
  jitterPercent := Strategy.standard.jitterPercent

/-- The choices of the standard policy. -/
def Clock.standard : Clock where
  sensitiveStatuses := defaultSensitiveStatuses
  thresholdSeconds := Int64.ofInt defaultThresholdSeconds
  possibleCodesOnAnyStatus := false

/-- Why the values of a configuration make no sense together. -/
inductive Fault where
  | noAttempts
  | baseAboveMaximum (base maximum : UInt64)
  | jitterAboveHundred (percent : UInt8)
  | negativeThreshold
deriving DecidableEq, Repr

/-- The fault in words. -/
def Fault.message : Fault → String
  | noAttempts => "strategy.max_attempts must be at least 1"
  | baseAboveMaximum base maximum =>
      "strategy.base_delay_ms (" ++ toString base.toNat ++ ") exceeds strategy.max_delay_ms (" ++
        toString maximum.toNat ++ ")"
  | jitterAboveHundred percent =>
      "strategy.jitter_percent (" ++ toString percent.toNat ++ ") exceeds 100"
  | negativeThreshold => "clock_skew.threshold_secs must not be negative"

end Config

/-- A configuration. -/
structure Config where
  backoff : Config.Backoff
  clock : Config.Clock
deriving DecidableEq

namespace Config

/-- The configuration where nothing else is asked for. -/
def standard : Config := ⟨Backoff.standard, Clock.standard⟩

instance : Inhabited Config := ⟨standard⟩

/-- The first fault of a configuration. -/
def fault? (config : Config) : Option Fault :=
  if config.backoff.maxAttempts = 0 then
    some .noAttempts
  else if config.backoff.maxMilliseconds < config.backoff.baseMilliseconds then
    some (.baseAboveMaximum config.backoff.baseMilliseconds config.backoff.maxMilliseconds)
  else if 100 < config.backoff.jitterPercent then
    some (.jitterAboveHundred config.backoff.jitterPercent)
  else if config.clock.thresholdSeconds < 0 then
    some .negativeThreshold
  else
    none

/-- The strategy that is chosen. -/
def strategy (config : Config) : Strategy where
  baseDelay := Delay.ofMilliseconds config.backoff.baseMilliseconds
  throttlingBaseDelay := Delay.ofMilliseconds config.backoff.throttlingBaseMilliseconds
  maxDelay := Delay.ofMilliseconds config.backoff.maxMilliseconds
  maxAttempts := config.backoff.maxAttempts
  jitterPercent := config.backoff.jitterPercent

/-- The policy that is chosen; none when the threshold is no span. -/
def policy? (config : Config) : Option Policy :=
  (Span.ofSeconds? config.clock.thresholdSeconds.toInt).map fun threshold =>
    ((Policy.standard.withSensitiveStatuses config.clock.sensitiveStatuses).withThreshold
      threshold).withPossibleCodesOnAnyStatus config.clock.possibleCodesOnAnyStatus

end Config

end Triage

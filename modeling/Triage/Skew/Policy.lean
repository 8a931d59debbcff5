import Triage.Time.Instant
import Triage.ErrorCode

/-!
# Recognising a wrong clock

A clock's skew is the client's time minus the service's time, so a client whose
clock runs ahead has a positive skew and estimates the service's clock as its own
time less the skew it knows of.

A failure is put down to skew when its code says so for certain.  Otherwise the
status, or a code that skew may cause, has to raise a suspicion, the service's
time has to be known, and the estimate has to be off by the threshold or more.
-/

namespace Triage.Skew

open Triage.Time

/-- How far a client's clock is ahead of the service's clock. -/
def clockSkew (client server : Instant) : Span := client.since server

/-- Two clocks differ by the threshold or more. -/
def isClockSkewed (client server : Instant) (threshold : Span) : Bool :=
  threshold ≤ (clockSkew client server).abs

/-- When a failure is put down to a wrong clock. -/
structure Policy where
  sensitiveStatuses : List UInt16
  threshold : Span
  possibleCodesOnAnyStatus : Bool
deriving DecidableEq, Hashable

/-- What is known about a failure when its clock is judged. -/
structure Observation where
  code : String
  status : UInt16
  serverTime : Option Instant
  now : Instant
  clockOffset : Span
deriving DecidableEq

/-- The outcome of judging an observation, with the skew that remains after the
known offset when it was measured. -/
inductive Verdict where
  | definiteCode
  | notSuspected
  | unknownServerTime
  | tolerated (residual : Span)
  | skewed (residual : Span)
deriving DecidableEq

/-- The verdict puts the failure down to a wrong clock. -/
def Verdict.isSkewed : Verdict → Bool
  | definiteCode => true
  | notSuspected => false
  | unknownServerTime => false
  | tolerated _ => false
  | skewed _ => true

/-- The statuses that raise a suspicion unless a policy says otherwise. -/
def defaultSensitiveStatuses : List UInt16 := [401, 403]

/-- The threshold unless a policy says otherwise, in seconds. -/
def defaultThresholdSeconds : Int := 240

namespace Policy

/-- The policy where nothing else is asked for. -/
def standard : Policy := ⟨defaultSensitiveStatuses, Span.fourMinutes, false⟩

instance : Inhabited Policy := ⟨standard⟩

/-- Choose the statuses that raise a suspicion. -/
def withSensitiveStatuses (policy : Policy) (statuses : List UInt16) : Policy :=
  { policy with sensitiveStatuses := statuses }

/-- Choose the threshold; its direction does not matter. -/
def withThreshold (policy : Policy) (threshold : Span) : Policy :=
  { policy with threshold := threshold.abs }

/-- Choose whether codes that skew may cause raise a suspicion on any status. -/
def withPossibleCodesOnAnyStatus (policy : Policy) (enabled : Bool) : Policy :=
  { policy with possibleCodesOnAnyStatus := enabled }

/-- The status raises a suspicion. -/
def isSensitiveStatus (policy : Policy) (status : UInt16) : Bool :=
  policy.sensitiveStatuses.contains status

/-- The status or the code raises a suspicion. -/
def suspects (policy : Policy) (observation : Observation) : Bool :=
  policy.isSensitiveStatus observation.status ||
    (policy.possibleCodesOnAnyStatus && ErrorCode.isPossibleSkew observation.code)

/-- Judge an observation.  There is no verdict when the estimate of the service's
clock leaves the calendar. -/
def judge? (policy : Policy) (observation : Observation) : Option Verdict :=
  if ErrorCode.isDefiniteSkew observation.code then
    some .definiteCode
  else if policy.suspects observation then
    match observation.serverTime with
    | none => some .unknownServerTime
    | some serverTime =>
        (observation.now.sub? observation.clockOffset).map fun estimate =>
          if isClockSkewed estimate serverTime policy.threshold then
            .skewed (clockSkew estimate serverTime)
          else
            .tolerated (clockSkew estimate serverTime)
  else
    some .notSuspected

/-- Whether an observation is put down to a wrong clock. -/
def isSkewed? (policy : Policy) (observation : Observation) : Option Bool :=
  (policy.judge? observation).map Verdict.isSkewed

end Policy

end Triage.Skew

import Triage.FailureKind
import Triage.Log.Event
import Triage.Response
import Triage.Skew.Policy
import Triage.Time.HttpDate.Reader

/-!
# Failed service calls

A failed call carries what the service answered, what the client knew of its own
clock, and the policy by which a wrong clock is recognised.  Its kind is decided
in a fixed order: a wrong clock first, then throttling, then any other reason to
try again.

The service's time comes from the first `Date` header of the response.  A header
that is no date counts as missing, and every reading of it leaves an event.
-/

namespace Triage

open Triage.Log Triage.Skew Triage.Time

/-- What a service said about an error. -/
structure ErrorDetails where
  code : String
  message : String
  service : String
  response : Option Response
deriving DecidableEq, Hashable, Repr

/-- Nothing is known. -/
def ErrorDetails.empty : ErrorDetails := ⟨"", "", "", none⟩

/-- A failed call. -/
structure ServiceFailure where
  details : ErrorDetails
  status : UInt16
  requestId : Option String
  extendedRequestId : Option String
  clockOffset : Span
  policy : Policy
deriving DecidableEq, Hashable

namespace ServiceFailure

/-- The status that asks for fewer requests. -/
def tooManyRequests : UInt16 := 429

/-- The text of the first `Date` header. -/
def dateHeader? (failure : ServiceFailure) : Option String :=
  failure.details.response.bind fun response => response.value? Header.dateName

/-- The time that the service gave. -/
def serverTime? (failure : ServiceFailure) : Option Instant :=
  failure.dateHeader?.bind HttpDate.read?

/-- The event that reading the service's time leaves. -/
def dateEvents (failure : ServiceFailure) : List Event :=
  match failure.dateHeader? with
  | none => []
  | some date => if (HttpDate.read? date).isSome then [] else [.unreadableDate date]

/-- The service asks for fewer requests. -/
def isThrottling (failure : ServiceFailure) : Bool :=
  failure.status = tooManyRequests || ErrorCode.isThrottling failure.details.code

/-- The code, throttling or a status of 500 and above allows another attempt. -/
def isRetryable (failure : ServiceFailure) : Bool :=
  ErrorCode.isRetryable failure.details.code || failure.isThrottling || 500 ≤ failure.status

/-- What a clock that shows `now` observes. -/
def observation (failure : ServiceFailure) (now : Instant) : Observation where
  code := failure.details.code
  status := failure.status
  serverTime := failure.serverTime?
  now := now
  clockOffset := failure.clockOffset

/-- The judgement of the failure's policy. -/
def verdict? (failure : ServiceFailure) (now : Instant) : Option Verdict :=
  failure.policy.judge? (failure.observation now)

/-- Whether the failure is put down to a wrong clock. -/
def isClockSkew? (failure : ServiceFailure) (now : Instant) : Option Bool :=
  (failure.verdict? now).map Verdict.isSkewed

/-- The kind of a failure whose clock has been judged. -/
def kindAfter (failure : ServiceFailure) (verdict : Verdict) : FailureKind :=
  if verdict.isSkewed then .clockSkew
  else if failure.isThrottling then .throttling
  else if failure.isRetryable then .transient
  else .fatal

/-- The kind of the failure; none when its clock cannot be judged. -/
def kind? (failure : ServiceFailure) (now : Instant) : Option FailureKind :=
  (failure.verdict? now).map failure.kindAfter

/-- The events that judging the clock leaves. -/
def verdictEvents (failure : ServiceFailure) (verdict : Verdict) : List Event :=
  failure.dateEvents ++
    match verdict with
    | .skewed residual =>
        [.skewDetected failure.status failure.details.code failure.clockOffset residual]
    | _ => []

/-- Whether the failure is put down to a wrong clock, with the events. -/
def judgeClock? (failure : ServiceFailure) (now : Instant) : Option (Logged Bool) :=
  (failure.verdict? now).map fun verdict =>
    ⟨verdict.isSkewed, failure.verdictEvents verdict⟩

/-- The kind of the failure, with the events. -/
def classify? (failure : ServiceFailure) (now : Instant) : Option (Logged FailureKind) :=
  (failure.verdict? now).map fun verdict =>
    let kind := failure.kindAfter verdict
    ⟨kind, failure.verdictEvents verdict ++
      [.classified failure.status failure.details.code kind]⟩

/-- The failure in words. -/
def message (failure : ServiceFailure) : String :=
  failure.details.message ++ " (Service: " ++ failure.details.service ++
    ", Status Code: " ++ toString failure.status.toNat ++
    (match failure.requestId with
      | some requestId => ", Request ID: " ++ requestId
      | none => "") ++
    (match failure.extendedRequestId with
      | some requestId => ", Extended Request ID: " ++ requestId
      | none => "") ++ ")"

/-- A failure under construction. -/
structure Draft where
  details : Option ErrorDetails
  status : Option UInt16
  requestId : Option String
  extendedRequestId : Option String
  clockOffset : Span
  policy : Policy

namespace Draft

/-- Nothing is set. -/
def empty : Draft := ⟨none, none, none, none, Span.zero, Policy.standard⟩

/-- The finished failure. -/
def build (draft : Draft) : Except MissingField ServiceFailure :=
  match draft.status with
  | some status =>
      .ok ⟨draft.details.getD ErrorDetails.empty, status, draft.requestId,
        draft.extendedRequestId, draft.clockOffset, draft.policy⟩
  | none => .error .statusCode

end Draft

/-- The draft from which a failure could have been built. -/
def toDraft (failure : ServiceFailure) : Draft where
  details := some failure.details
  status := some failure.status
  requestId := failure.requestId
  extendedRequestId := failure.extendedRequestId
  clockOffset := failure.clockOffset
  policy := failure.policy

/-- The failure as seen by a client with another belief about its clock. -/
def withClockOffset (failure : ServiceFailure) (clockOffset : Span) : ServiceFailure :=
  { failure with clockOffset := clockOffset }

end ServiceFailure

end Triage

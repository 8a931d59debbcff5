import Triage.FailureKind
import Triage.Log.Level
import Triage.Retry.Delay
import Triage.Time.Span

/-!
# Events

Classifying failures, deciding on retries and collecting failed transfers leave
a trail of events.  Each carries its data; its level, its message and its named
fields are derived from them.
-/

namespace Triage.Log

universe u

open Triage.Retry Triage.Time

/-- What happened. -/
inductive Event where
  | unreadableDate (date : String)
  | skewDetected (status : UInt16) (code : String) (offset residual : Span)
  | classified (status : UInt16) (code : String) (kind : FailureKind)
  | gaveUp (attempt maxAttempts : UInt32) (kind : FailureKind)
  | retryingWithClockSkew (attempt : UInt32) (clockSkew : Span)
  | retrying (attempt : UInt32) (delay : Delay) (kind : FailureKind)
  | failureRecorded (failures : Nat)
  | transferFinished (failures : Nat)
deriving DecidableEq

/-- The value of an event's field. -/
inductive FieldValue where
  | number (value : Int)
  | text (value : String)
deriving DecidableEq, Repr

namespace Event

/-- How important the event is. -/
def level : Event → Level
  | gaveUp .. => .warn
  | failureRecorded .. => .trace
  | _ => .debug

/-- What the event says. -/
def message : Event → String
  | unreadableDate .. => "ignoring unparseable Date header"
  | skewDetected .. => "clock skew detected"
  | classified .. => "classified service error"
  | gaveUp .. => "giving up after exhausting retry attempts"
  | retryingWithClockSkew .. => "retrying with corrected clock skew"
  | retrying .. => "retrying"
  | failureRecorded .. => "recorded failed transfer"
  | transferFinished .. => "directory transfer finished"

/-- The named fields of the event. -/
def fields : Event → List (String × FieldValue)
  | unreadableDate date => [("date", .text date)]
  | skewDetected status code offset residual =>
      [("status_code", .number status.toNat), ("error_code", .text code),
        ("offset_secs", .number offset.seconds),
        ("residual_skew_secs", .number residual.seconds)]
  | classified status code kind =>
      [("status_code", .number status.toNat), ("error_code", .text code),
        ("kind", .text kind.name)]
  | gaveUp attempt maxAttempts kind =>
      [("attempt", .number attempt.toNat), ("max_attempts", .number maxAttempts.toNat),
        ("kind", .text kind.name)]
  | retryingWithClockSkew attempt clockSkew =>
      [("attempt", .number attempt.toNat), ("clock_skew_secs", .number clockSkew.seconds)]
  | retrying attempt delay kind =>
      [("attempt", .number attempt.toNat),
        ("delay_ms", .number delay.millisecondsWord.toNat), ("kind", .text kind.name)]
  | failureRecorded failures => [("failures", .number failures)]
  | transferFinished failures => [("failures", .number failures)]

/-- The event in one line. -/
def text (event : Event) : String :=
  let fieldText : String × FieldValue → String
    | (name, .number value) => " " ++ name ++ "=" ++ toString value
    | (name, .text value) => " " ++ name ++ "=" ++ value
  event.level.name ++ ": " ++ event.message ++ String.join (event.fields.map fieldText)

end Event

/-- A result together with the events on the way to it. -/
structure Logged (α : Type u) where
  value : α
  events : List Event

end Triage.Log

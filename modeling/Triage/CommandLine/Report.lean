import Triage.Retry.Decision
import Triage.Text.JsonText

/-!
# Reports on failed calls

A report says what a failed call is put down to and what to do about it.  It is
written in aligned lines or as JSON.
-/

namespace Triage.CommandLine

open Triage.Retry Triage.Text Triage.Time

/-- A report on a failed call. -/
structure Report where
  message : String
  kind : FailureKind
  isThrottling : Bool
  isRetryable : Bool
  isClockSkew : Bool
  decision : Decision
deriving DecidableEq

namespace Report

/-- The milliseconds before the next attempt. -/
def delayMilliseconds? (report : Report) : Option Nat :=
  report.decision.delay?.map fun delay => delay.millisecondsWord.toNat

/-- The seconds of the skew that the next attempt assumes. -/
def clockSkewSeconds? (report : Report) : Option Int :=
  report.decision.clockSkew?.map Span.seconds

/-- The decision with its numbers. -/
def decisionText (report : Report) : String :=
  report.decision.name ++
    (match report.delayMilliseconds? with
      | some milliseconds => " after " ++ toString milliseconds ++ "ms"
      | none => "") ++
    (match report.clockSkewSeconds? with
      | some seconds => " (new clock skew " ++ toString seconds ++ "s)"
      | none => "")

/-- The report in lines. -/
def text (report : Report) : String :=
  "message:        " ++ report.message ++ "\n" ++
    "classification: " ++ report.kind.name ++ "\n" ++
    "throttling:     " ++ toString report.isThrottling ++ "\n" ++
    "retryable:      " ++ toString report.isRetryable ++ "\n" ++
    "clock skew:     " ++ toString report.isClockSkew ++ "\n" ++
    "decision:       " ++ report.decisionText ++ "\n"

/-- The members of the report as JSON. -/
def members (report : Report) : List (String × String) :=
  [("message", jsonText report.message), ("classification", jsonText report.kind.name),
    ("throttling", toString report.isThrottling), ("retryable", toString report.isRetryable),
    ("clock_skew", toString report.isClockSkew),
    ("decision", jsonText report.decision.name)] ++
    (report.delayMilliseconds?.map fun milliseconds =>
      ("delay_ms", toString milliseconds)).toList ++
    (report.clockSkewSeconds?.map fun seconds =>
      ("new_clock_skew_secs", toString seconds)).toList

/-- The report as a JSON object with one member a line. -/
def json (report : Report) : String :=
  "\x7b\n" ++
    ",\n".intercalate (report.members.map fun (name, value) =>
      "  " ++ jsonText name ++ ": " ++ value) ++
    "\n\x7d\n"

end Report

end Triage.CommandLine

import Triage.CommandLine.Arguments
import Triage.CommandLine.Report
import Triage.Config.Load
import Triage.Log.Settings

/-!
# Running a command

A run depends on the arguments, the clock, the environment and what the path of
the configuration leads to.  It ends with texts for the output and for errors and
with an exit code, unless a time or a threshold is out of range.
-/

namespace Triage.CommandLine

open Triage.Config Triage.Log Triage.Retry Triage.Skew Triage.Time

/-- How a run ends. -/
structure Outcome where
  exitCode : UInt8
  output : String
  errors : List String
  events : List Event
deriving DecidableEq

namespace Outcome

/-- The run succeeds with some output. -/
def success (output : String) (events : List Event) : Outcome := ⟨0, output, [], events⟩

/-- The run fails with an exit code and a message. -/
def failure (exitCode : UInt8) (message : String) : Outcome :=
  ⟨exitCode, "", ["Error: " ++ message], []⟩

end Outcome

/-- What a run can see. -/
structure Surroundings where
  now : Instant
  environment : List Variable
  lookUp : String → Target

/-- The failed call that the command line describes; none when the skew is no span. -/
def Failure.toServiceFailure? (failure : Failure) (policy : Policy) : Option ServiceFailure :=
  (Span.ofSeconds? failure.skewSeconds).map fun clockOffset =>
    { details :=
        { code := failure.code
          message := failure.message
          service := failure.service
          response := some
            { status := failure.status
              headers := (failure.date.map (Header.mk Header.dateName)).toList } }
      status := failure.status
      requestId := failure.requestId
      extendedRequestId := failure.extendedRequestId
      clockOffset := clockOffset
      policy := policy }

/-- The report on a failed call, with the events on the way to it. -/
def Report.ofFailure? (config : Config) (failure : Failure) (now : Instant) :
    Option (Logged Report) := do
  let policy ← config.policy?
  let call ← failure.toServiceFailure? policy
  let decision ← config.strategy.decideLogged? failure.attempt call now
  let kind ← call.classify? now
  let isClockSkew ← call.judgeClock? now
  some
    { value :=
        { message := call.message
          kind := kind.value
          isThrottling := call.isThrottling
          isRetryable := call.isRetryable
          isClockSkew := isClockSkew.value
          decision := decision.value }
      events := decision.events ++ kind.events ++ isClockSkew.events }

/-- Judge a failed call. -/
def classify (config : Config) (failure : Failure) (asJson : Bool) (now : Instant) :
    Option Outcome :=
  (Report.ofFailure? config failure now).map fun report =>
    .success (if asJson then report.value.json else report.value.text) report.events

/-- Compare a date with the clock. -/
def skew (config : Config) (date : String) (now : Instant) : Option Outcome :=
  match HttpDate.read? date with
  | none => some (.failure 2 ("not an RFC 1123 date: " ++ date))
  | some serverTime =>
      config.policy?.map fun policy =>
        .success
          ("clock skew: " ++ toString (clockSkew now serverTime).seconds ++ "s\n" ++
            "skewed:     " ++ toString (isClockSkewed now serverTime policy.threshold) ++ "\n")
          []

/-- The configuration of a run. -/
def Invocation.config (invocation : Invocation) (surroundings : Surroundings) : Loaded Config :=
  match invocation.configPath with
  | none => .ok Config.standard
  | some path =>
      load surroundings.lookUp standardWord surroundings.environment path

/-- Run a command; none when a time or a threshold is out of range. -/
def Invocation.run (invocation : Invocation) (surroundings : Surroundings) : Option Outcome :=
  match invocation.config surroundings with
  | .error .noPlace => none
  | .error error => some (.failure 1 error.message)
  | .ok config =>
      match invocation.command with
      | .classify failure asJson => classify config failure asJson surroundings.now
      | .skew date => skew config date surroundings.now

/-- The least important messages that a request wants to see. -/
def Request.logLevel : Request → Level
  | .run invocation => (Settings.ofVerbosity invocation.verbosity).level
  | _ => Settings.standard.level

/-- The path of the configuration that a request asks for. -/
def Request.configPath? : Request → Option String
  | .run invocation => invocation.configPath
  | _ => none

/-- The name and version of the program. -/
def versionText : String := "svc-retry 0.1.0\n"

/-- How to use the program. -/
def helpText : String :=
  "Classify service errors and decide whether to retry them\n\n" ++
    "Usage: svc-retry [-v]... [-c FILE] classify --status STATUS [--code TEXT]\n" ++
    "         [--message TEXT] [--service TEXT] [--request-id TEXT]\n" ++
    "         [--extended-request-id TEXT] [--date DATE] [--skew-secs SECONDS]\n" ++
    "         [--attempt NUMBER] [--json]\n" ++
    "       svc-retry [-v]... [-c FILE] skew --date DATE\n" ++
    "       svc-retry --help | --version"

/-- Do what the arguments ask for; none when a time or a threshold is out of range. -/
def Request.perform (request : Request) (surroundings : Surroundings) : Option Outcome :=
  match request with
  | .run invocation => invocation.run surroundings
  | .help => some (.success (helpText ++ "\n") [])
  | .version => some (.success versionText [])
  | .nothing => some ⟨2, "", [helpText], []⟩
  | .unusable => some ⟨2, "", ["error: unusable arguments; try --help"], []⟩

end Triage.CommandLine

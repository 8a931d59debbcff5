import Triage.CommandLine.Run
import Triage.Proofs.Config.Usability
import Triage.Proofs.Retry.DecisionTable
import Triage.Proofs.Retry.WordArithmetic

/-!
# Reports on described calls

The flag, the kind and the decision of a report are those of the failed call that the
command line describes.  There is a report whenever the threshold and the skew are spans and
the clock of the call can be judged.  All of it is printed, each on a line of its own but for
the numbers of a decision in plain text.  Configurations of runs are valid.
-/

namespace Triage.CommandLine

open Triage.Config Triage.Log Triage.Retry Triage.Skew Triage.Text Triage.Time

variable {config : Config} {failure : Failure} {policy : Policy} {call : ServiceFailure}
  {now : Instant}

/-! ## Described calls -/

/-- The failed call has the code, the status and the date of its description, and the policy
judges it. -/
structure Failure.Describes (failure : Failure) (policy : Policy) (call : ServiceFailure) :
    Prop where
  code : call.details.code = failure.code
  status : call.status = failure.status
  serverTime : call.serverTime? = failure.date.bind HttpDate.read?
  policy : call.policy = policy
  clockOffset : call.clockOffset.nanoseconds = failure.skewSeconds * 1000000000

theorem Failure.describes_of_toServiceFailure?
    (isCall : failure.toServiceFailure? policy = some call) : failure.Describes policy call := by
  obtain ⟨offset, isOffset, rfl⟩ := Option.map_eq_some_iff.mp isCall
  refine ⟨rfl, rfl, ?_, rfl, Span.ofNanoseconds?_eq_some_iff.mp isOffset⟩
  have same : Header.SameName Header.dateName Header.dateName := rfl
  cases failure.date with
  | none => rfl
  | some date =>
      simp [ServiceFailure.serverTime?, ServiceFailure.dateHeader?, Response.value?, same]

/-- The report says what is judged, classified and decided about the call. -/
structure Report.IsAbout (report : Report) (config : Config) (failure : Failure)
    (call : ServiceFailure) (now : Instant) : Prop where
  isClockSkew : call.isClockSkew? now = some report.isClockSkew
  kind : call.kind? now = some report.kind
  decision : config.strategy.decide? failure.attempt call now = some report.decision

/-- A report is about the call that the command line describes. -/
theorem Report.exists_isAbout_of_ofFailure? {report : Logged Report}
    (reported : Report.ofFailure? config failure now = some report) :
    ∃ policy call, config.policy? = some policy ∧
      failure.toServiceFailure? policy = some call ∧
      report.value.IsAbout config failure call now := by
  obtain ⟨policy, isPolicy, reported⟩ := Option.bind_eq_some_iff.mp reported
  obtain ⟨call, isCall, reported⟩ := Option.bind_eq_some_iff.mp reported
  obtain ⟨decision, decided, reported⟩ := Option.bind_eq_some_iff.mp reported
  obtain ⟨kind, classified, reported⟩ := Option.bind_eq_some_iff.mp reported
  obtain ⟨isClockSkew, judged, made⟩ := Option.bind_eq_some_iff.mp reported
  cases made
  refine ⟨policy, call, isPolicy, isCall, ?_, ?_, ?_⟩
  · obtain ⟨verdict, isVerdict, rfl⟩ := Option.map_eq_some_iff.mp judged
    rw [ServiceFailure.isClockSkew?, isVerdict]
    rfl
  · obtain ⟨verdict, isVerdict, rfl⟩ := Option.map_eq_some_iff.mp classified
    rw [ServiceFailure.kind?, isVerdict]
    rfl
  · rw [← Strategy.value_decideLogged?, decided]
    rfl

/-- A call whose clock can be judged is reported on. -/
theorem Report.exists_isAbout {skewed : Bool} (isPolicy : config.policy? = some policy)
    (isCall : failure.toServiceFailure? policy = some call)
    (judged : call.isClockSkew? now = some skewed) :
    ∃ report, Report.ofFailure? config failure now = some report ∧
      report.value.IsAbout config failure call now ∧ report.value.isClockSkew = skewed := by
  have isReported : ∃ report, Report.ofFailure? config failure now = some report := by
    obtain ⟨verdict, isVerdict, -⟩ := Option.map_eq_some_iff.mp judged
    simp only [Report.ofFailure?, isPolicy, isCall, Strategy.decideLogged?,
      ServiceFailure.classify?, ServiceFailure.judgeClock?, isVerdict, Option.bind_eq_bind,
      Option.bind_some, Option.map_some]
    exact ⟨_, rfl⟩
  obtain ⟨report, reported⟩ := isReported
  obtain ⟨otherPolicy, otherCall, isOtherPolicy, isOtherCall, about⟩ :=
    Report.exists_isAbout_of_ofFailure? reported
  obtain rfl : policy = otherPolicy := Option.some.inj (isPolicy.symm.trans isOtherPolicy)
  obtain rfl : call = otherCall := Option.some.inj (isCall.symm.trans isOtherCall)
  exact ⟨report, reported, about, Option.some.inj (about.isClockSkew.symm.trans judged)⟩

/-- A report that puts a call with a known time of the service down to a wrong clock hands
out a correction as long as an attempt is left. -/
theorem Report.IsAbout.decision_eq {report : Report} {server : Instant}
    (about : report.IsAbout config failure call now) (skewed : report.isClockSkew = true)
    (known : call.serverTime? = some server)
    (allowed : failure.attempt < config.backoff.maxAttempts) :
    report.decision = .retryWithClockSkew Delay.zero (clockSkew now server) := by
  have judged := about.isClockSkew
  rw [skewed] at judged
  have attemptLeft : ¬ config.strategy.maxAttempts ≤ failure.attempt := UInt32.not_le.mpr allowed
  have decided := Strategy.decide?_of_serverTime? judged attemptLeft known
  exact Option.some.inj (about.decision.symm.trans decided)

/-! ## What is printed -/

/-- A member of an object, on a line of its own. -/
def memberLine (name value : String) : String := "  " ++ ("\"" ++ name ++ "\"") ++ ": " ++ value

/-- The first line of a report, for its message; the object starts there. -/
def messageLine (asJson : Bool) (message : String) : String :=
  if asJson then "\x7b\n" ++ memberLine "message" (jsonText message) ++ ",\n"
  else "message:        " ++ message ++ "\n"

/-- The line for the kind of the failure. -/
def kindLine (asJson : Bool) (kind : FailureKind) : String :=
  if asJson then memberLine "classification" ("\"" ++ kind.name ++ "\"") ++ ",\n"
  else "classification: " ++ kind.name ++ "\n"

/-- The lines for the three flags. -/
def flagLines (asJson isThrottling isRetryable isClockSkew : Bool) : String :=
  if asJson then
    memberLine "throttling" (toString isThrottling) ++ ",\n" ++
      memberLine "retryable" (toString isRetryable) ++ ",\n" ++
      memberLine "clock_skew" (toString isClockSkew) ++ ",\n"
  else
    "throttling:     " ++ toString isThrottling ++ "\n" ++
      "retryable:      " ++ toString isRetryable ++ "\n" ++
      "clock skew:     " ++ toString isClockSkew ++ "\n"

/-- The last lines, for the decision, the milliseconds before the next attempt and the seconds
of a correction; the object ends there. -/
def decisionLines (asJson : Bool) (decision : String) (milliseconds? : Option Nat)
    (seconds? : Option Int) : String :=
  if asJson then
    memberLine "decision" ("\"" ++ decision ++ "\"") ++
      (match milliseconds? with
        | some milliseconds => ",\n" ++ memberLine "delay_ms" (toString milliseconds)
        | none => "") ++
      (match seconds? with
        | some seconds => ",\n" ++ memberLine "new_clock_skew_secs" (toString seconds)
        | none => "") ++
      "\n\x7d\n"
  else
    "decision:       " ++
      (decision ++
        (match milliseconds? with
          | some milliseconds => " after " ++ toString milliseconds ++ "ms"
          | none => "") ++
        (match seconds? with
          | some seconds => " (new clock skew " ++ toString seconds ++ "s)"
          | none => "")) ++
      "\n"

/-- What is printed of a report. -/
def Report.printed (report : Report) (asJson : Bool) : String :=
  messageLine asJson report.message ++ kindLine asJson report.kind ++
    flagLines asJson report.isThrottling report.isRetryable report.isClockSkew ++
    decisionLines asJson report.decision.name report.delayMilliseconds? report.clockSkewSeconds?

/-- Names hold no characters that are written with a backslash. -/
theorem jsonText_kindName (kind : FailureKind) : jsonText kind.name = "\"" ++ kind.name ++ "\"" := by
  cases kind <;> decide

theorem jsonText_decisionName (decision : Decision) :
    jsonText decision.name = "\"" ++ decision.name ++ "\"" := by
  have plain : ∀ name ∈ ["retry", "retry-with-clock-skew", "not-retryable", "attempts-exhausted"],
      jsonText name = "\"" ++ name ++ "\"" := by decide
  apply plain
  rcases decision with delay | ⟨delay, clockSkew⟩ | (_ | _) <;> simp [Decision.name]

/-- The members of a report stand on lines of their own. -/
theorem Report.map_members (report : Report) :
    (report.members.map fun (name, value) => "  " ++ jsonText name ++ ": " ++ value) =
      [memberLine "message" (jsonText report.message),
        memberLine "classification" ("\"" ++ report.kind.name ++ "\""),
        memberLine "throttling" (toString report.isThrottling),
        memberLine "retryable" (toString report.isRetryable),
        memberLine "clock_skew" (toString report.isClockSkew),
        memberLine "decision" ("\"" ++ report.decision.name ++ "\"")] ++
      (report.delayMilliseconds?.map fun milliseconds =>
        memberLine "delay_ms" (toString milliseconds)).toList ++
      (report.clockSkewSeconds?.map fun seconds =>
        memberLine "new_clock_skew_secs" (toString seconds)).toList := by
  have plain : ∀ name ∈ ["message", "classification", "throttling", "retryable", "clock_skew",
      "decision", "delay_ms", "new_clock_skew_secs"],
      jsonText name = "\"" ++ name ++ "\"" := by decide
  simp only [List.forall_mem_cons] at plain
  obtain ⟨message, classification, throttling, retryable, clockSkew, decision, delay, seconds, -⟩ :=
    plain
  unfold Report.members
  cases report.delayMilliseconds? <;> cases report.clockSkewSeconds? <;>
    simp only [memberLine, message, classification, throttling, retryable, clockSkew, decision,
      delay, seconds, jsonText_kindName, jsonText_decisionName, Option.map_some, Option.map_none,
      Option.toList_some, Option.toList_none, List.append_nil, List.cons_append, List.nil_append,
      List.map_cons, List.map_nil]

theorem Report.text_eq_printed (report : Report) : report.text = report.printed false := by
  unfold Report.text Report.printed Report.decisionText decisionLines
  cases report.delayMilliseconds? <;> cases report.clockSkewSeconds? <;>
    simp only [messageLine, kindLine, flagLines, String.append_assoc, Bool.false_eq_true, if_false]

theorem Report.json_eq_printed (report : Report) : report.json = report.printed true := by
  unfold Report.json Report.printed decisionLines
  rw [report.map_members]
  cases report.delayMilliseconds? <;> cases report.clockSkewSeconds? <;>
    simp only [messageLine, kindLine, flagLines, if_true, Option.map_some, Option.map_none,
      Option.toList_some, Option.toList_none, List.append_nil, List.cons_append, List.nil_append,
      String.intercalate_cons_cons, String.intercalate_singleton, String.append_assoc,
      String.empty_append]

/-- A report is printed in one of two forms. -/
theorem Report.printed_eq (report : Report) (asJson : Bool) :
    report.printed asJson = if asJson then report.json else report.text := by
  cases asJson
  · exact report.text_eq_printed.symm
  · exact report.json_eq_printed.symm

/-! ## Configurations of runs -/

/-- The configuration of a run is valid. -/
theorem fault?_of_invocation {invocation : Invocation} {surroundings : Surroundings}
    (isConfig : invocation.config surroundings = .ok config) : config.fault? = none := by
  unfold Invocation.config at isConfig
  split at isConfig
  · cases isConfig
    decide
  · unfold load at isConfig
    split at isConfig
    · contradiction
    · contradiction
    · exact fault?_of_ofFile isConfig

/-- The delays before an attempt are sums that stay in the signed word. -/
def DelaysFit (strategy : Strategy) (attempt : UInt32) : Prop :=
  ∀ base : Delay, -2 ^ 63 ≤ strategy.movedMilliseconds base attempt ∧
    strategy.movedMilliseconds base attempt < 2 ^ 63

theorem delaysFit_of_valid (valid : config.fault? = none)
    (maximum_lt : config.backoff.maxMilliseconds.toNat < 2 ^ 46) (attempt : UInt32) :
    DelaysFit config.strategy attempt := by
  intro base
  apply Strategy.movedMilliseconds_bounds base attempt
  · change config.backoff.maxMilliseconds.toNat * 1000000 / 1000000 < 2 ^ 46
    rwa [Nat.mul_div_cancel _ (by decide)]
  · exact (fault?_eq_none_iff.mp valid).2.2.1

/-- A run of `classify` prints the report on its failed call. -/
theorem perform_classify {invocation : Invocation} {surroundings : Surroundings}
    {arguments : List String} {asJson : Bool}
    (asked : Request.ofArguments arguments = .run invocation)
    (isClassify : invocation.command = .classify failure asJson)
    (isConfig : invocation.config surroundings = .ok config) :
    (Request.ofArguments arguments).perform surroundings =
      (Report.ofFailure? config failure surroundings.now).map fun report =>
        .success (if asJson then report.value.json else report.value.text) report.events := by
  rw [asked, Request.perform, Invocation.run, isConfig]
  simp only [isClassify]
  rfl

end Triage.CommandLine

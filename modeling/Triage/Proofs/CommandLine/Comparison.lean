import Triage.Proofs.CommandLine.Reports
import Triage.Proofs.Time.Shift

/-!
# The two commands

`skew` compares a date with the clock at once, and `classify` judges the clock of a failed
call with this date.  For a call of a client that knows of no skew, whose status raises a
suspicion and whose code is not certain, both come to the same result.
-/

namespace Triage

open Triage.Skew Triage.Time

/-- Without a known skew a suspicion is judged by the time of the service alone. -/
theorem ServiceFailure.isClockSkew?_of_suspected {call : ServiceFailure} {now : Instant}
    (uncertain : ErrorCode.isDefiniteSkew call.details.code = false)
    (suspected : call.policy.suspects (call.observation now) = true)
    (noOffset : call.clockOffset = Span.zero) :
    call.isClockSkew? now = some
      (match call.serverTime? with
      | none => false
      | some server => isClockSkewed now server call.policy.threshold) := by
  have judged : call.isClockSkew? now = call.policy.isSkewed? (call.observation now) := rfl
  rw [judged, Policy.isSkewed?_of_not_isDefiniteSkew uncertain, if_pos suspected]
  change (match call.serverTime? with | none => _ | some server => _) = _
  cases call.serverTime? with
  | none => rfl
  | some server =>
      change (now.sub? call.clockOffset).map _ = _
      rw [noOffset, Instant.sub?_zero]
      rfl

namespace CommandLine

open Triage.Config Triage.Log Triage.Retry

variable {config : Config} {failure : Failure} {policy : Policy} {call : ServiceFailure}

/-- A call without a skew is described by a span of no time. -/
theorem Failure.exists_call_of_noOffset (noOffset : failure.skewSeconds = 0) (policy : Policy) :
    ∃ call, failure.toServiceFailure? policy = some call ∧ call.clockOffset = Span.zero := by
  have isZero : Span.ofSeconds? failure.skewSeconds = some Span.zero := by
    rw [noOffset]
    decide
  rw [Failure.toServiceFailure?, isZero]
  exact ⟨_, rfl, rfl⟩

/-- A status of the configuration raises a suspicion. -/
theorem suspects_of_mem (carries : config.Carries policy)
    (describes : failure.Describes policy call)
    (isSensitive : failure.status ∈ config.clock.sensitiveStatuses) (now : Instant) :
    call.policy.suspects (call.observation now) = true := by
  have isSuspect : call.policy.isSensitiveStatus call.status = true := by
    rw [Policy.isSensitiveStatus, describes.policy, describes.status, carries.sensitiveStatuses]
    exact List.contains_iff_mem.mpr isSensitive
  rw [Policy.suspects, ServiceFailure.observation, isSuspect, Bool.true_or]

/-- A run of `skew` with a date prints the comparison of the clocks. -/
theorem perform_skew {invocation : Invocation} {surroundings : Surroundings}
    {arguments : List String} {date : String}
    (asked : Request.ofArguments arguments = .run invocation)
    (isSkew : invocation.command = .skew date)
    (isConfig : invocation.config surroundings = .ok config) :
    (Request.ofArguments arguments).perform surroundings =
      skew config date surroundings.now := by
  rw [asked, Request.perform, Invocation.run, isConfig]
  simp only [isSkew]

/-- The two commands agree about a date: the report that `classify` prints on the described
call has the flag that `skew` prints, and then hands out the seconds that `skew` prints as
long as an attempt is left.  Without a date that can be read `skew` fails, and `classify`
reports no wrong clock.  The delays of the report are sums that stay in the signed word. -/
theorem commands_agree (surroundings : Surroundings) (skewArguments classifyArguments : List String)
    (comparing judging : Invocation) (date : String) (failure : Failure) (asJson : Bool)
    (config : Config) (askedSkew : Request.ofArguments skewArguments = .run comparing)
    (askedClassify : Request.ofArguments classifyArguments = .run judging)
    (isSkew : comparing.command = .skew date)
    (isClassify : judging.command = .classify failure asJson)
    (skewConfig : comparing.config surroundings = .ok config)
    (classifyConfig : judging.config surroundings = .ok config)
    (threshold_le : config.clock.thresholdSeconds.toInt ≤ maxSpanSeconds)
    (maximum_lt : config.backoff.maxMilliseconds.toNat < 2 ^ 46)
    (isDate : failure.date = some date)
    (isSensitive : failure.status ∈ config.clock.sensitiveStatuses)
    (uncertain : ErrorCode.isDefiniteSkew failure.code = false)
    (noOffset : failure.skewSeconds = 0) :
    DelaysFit config.strategy failure.attempt ∧
      ∃ report : Logged Report,
        Report.ofFailure? config failure surroundings.now = some report ∧
          (Request.ofArguments classifyArguments).perform surroundings =
            some (.success (report.value.printed asJson) report.events) ∧
          match HttpDate.read? date with
          | none =>
              (Request.ofArguments skewArguments).perform surroundings =
                  some (.failure 2 ("not an RFC 1123 date: " ++ date)) ∧
                report.value.isClockSkew = false
          | some _ =>
              ∃ seconds skewed,
                (Request.ofArguments skewArguments).perform surroundings =
                    some (.success ("clock skew: " ++ toString seconds ++ "s\n" ++
                      "skewed:     " ++ toString skewed ++ "\n") []) ∧
                  report.value.isClockSkew = skewed ∧
                  (skewed = true → failure.attempt < config.backoff.maxAttempts →
                    report.value.decision.name = "retry-with-clock-skew" ∧
                      report.value.clockSkewSeconds? = some seconds) := by
  have valid := fault?_of_invocation skewConfig
  have notNegative : 0 ≤ config.clock.thresholdSeconds.toInt :=
    Int64.le_iff_toInt_le.mp (fault?_eq_none_iff.mp valid).2.2.2
  obtain ⟨policy, isPolicy⟩ := (exists_policy?_iff notNegative).mpr threshold_le
  obtain ⟨call, isCall, callOffset⟩ := Failure.exists_call_of_noOffset noOffset policy
  have describes := Failure.describes_of_toServiceFailure? isCall
  have suspected := suspects_of_mem (carries_of_policy? notNegative isPolicy) describes
    isSensitive surroundings.now
  have judged := ServiceFailure.isClockSkew?_of_suspected (describes.code ▸ uncertain)
    suspected callOffset
  obtain ⟨report, reported, about, isFlag⟩ := Report.exists_isAbout isPolicy isCall judged
  refine ⟨delaysFit_of_valid valid maximum_lt failure.attempt, report, reported, ?_, ?_⟩
  · rw [perform_classify askedClassify isClassify classifyConfig, reported, Option.map_some,
      report.value.printed_eq]
  have known : call.serverTime? = HttpDate.read? date := by
    rw [describes.serverTime, isDate, Option.bind_some]
  rw [perform_skew askedSkew isSkew skewConfig, skew]
  rw [known] at isFlag
  cases isRead : HttpDate.read? date with
  | none =>
      rw [isRead] at isFlag
      exact ⟨rfl, isFlag⟩
  | some server =>
      rw [isRead] at isFlag known
      refine ⟨(clockSkew surroundings.now server).seconds,
        isClockSkewed surroundings.now server policy.threshold, ?_, ?_, ?_⟩
      · rw [isPolicy]
        rfl
      · rw [isFlag, describes.policy]
      · intro skewed allowed
        rw [← describes.policy] at skewed
        have decided := about.decision_eq (isFlag.trans skewed) known allowed
        rw [Report.clockSkewSeconds?, decided]
        exact ⟨rfl, rfl⟩

/-- A request of a service whose clock is at the end of 2016. -/
def yearEndDate : String := "Sat, 31 Dec 2016 22:00:00 GMT"

/-- The last quarter of the leap second at the end of 2016. -/
def yearEnd : Surroundings :=
  ⟨(Instant.ofParts? 17166 86399 1750000000).get rfl, [], fun _ => .missing⟩

/-- A refused call that was answered with this date. -/
def yearEndFailure : Failure :=
  ⟨403, "AccessDenied", "", "", none, none, some yearEndDate, 0, 1⟩

/-- The arguments that compare this date with the clock. -/
def yearEndSkew : List String := ["skew", "--date", yearEndDate]

/-- The arguments that describe this call. -/
def yearEndClassify : List String :=
  ["classify", "--json", "--status=403", "--code=AccessDenied", "--date", yearEndDate]

theorem commands_agree_yearEnd :
    (Request.ofArguments yearEndSkew).perform yearEnd =
        some (.success "clock skew: 7200s\nskewed:     true\n" []) ∧
      ∃ (report : Logged Report) (seconds : Int) (skewed : Bool),
        (Request.ofArguments yearEndClassify).perform yearEnd =
            some (.success (report.value.printed true) report.events) ∧
          (Request.ofArguments yearEndSkew).perform yearEnd =
            some (.success ("clock skew: " ++ toString seconds ++ "s\n" ++
              "skewed:     " ++ toString skewed ++ "\n") []) ∧
          report.value.isClockSkew = skewed ∧
          (skewed = true → report.value.clockSkewSeconds? = some seconds) := by
  have askedSkew : Request.ofArguments yearEndSkew = .run ⟨0, none, .skew yearEndDate⟩ := by
    decide +kernel
  have askedClassify : Request.ofArguments yearEndClassify =
      .run ⟨0, none, .classify yearEndFailure true⟩ := by decide +kernel
  obtain ⟨server, isRead⟩ := Option.isSome_iff_exists.mp
    (show (HttpDate.read? yearEndDate).isSome = true by decide +kernel)
  obtain ⟨-, report, -, printsReport, agrees⟩ := commands_agree yearEnd yearEndSkew yearEndClassify
    ⟨0, none, .skew yearEndDate⟩ ⟨0, none, .classify yearEndFailure true⟩ yearEndDate
    yearEndFailure true standard askedSkew askedClassify rfl rfl rfl rfl (by decide) (by decide)
    rfl (by decide) (by decide) rfl
  rw [isRead] at agrees
  obtain ⟨seconds, skewed, printed, isFlag, corrects⟩ := agrees
  exact ⟨by decide +kernel, report, seconds, skewed, printsReport, printed, isFlag,
    fun isSkewed => (corrects isSkewed (by decide)).2⟩

end CommandLine

end Triage

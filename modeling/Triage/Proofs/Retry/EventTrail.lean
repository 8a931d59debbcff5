import Triage.Proofs.Retry.DecisionTable

/-!
# The events of a decision

Every decision tells its story in the same order: skew that was measured, the kind of
the failure, and what is done about it.  Work given up on a hopeless failure ends with
the kind.  A date that cannot be read is reported at every reading, which is a second
time when a clock that is wrong for certain is to be corrected.
-/

namespace Triage

open Triage.Log Triage.Retry Triage.Skew Triage.Time

/-! ## The clock -/

/-- A verdict of measured skew comes from the clocks and not from the code. -/
theorem Skew.Policy.judge?_eq_some_skewed_iff {policy : Policy} {observation : Observation}
    {residual : Span} :
    policy.judge? observation = some (.skewed residual) ↔
      ErrorCode.isDefiniteSkew observation.code = false ∧
        policy.suspects observation = true ∧
          ∃ server estimate, observation.serverTime = some server ∧
            observation.now.sub? observation.clockOffset = some estimate ∧
            isClockSkewed estimate server policy.threshold = true ∧
            clockSkew estimate server = residual := by
  unfold Policy.judge?
  cases ErrorCode.isDefiniteSkew observation.code with
  | true => simp
  | false =>
      cases policy.suspects observation with
      | false => simp
      | true =>
          cases observation.serverTime with
          | none => simp
          | some server =>
              cases observation.now.sub? observation.clockOffset with
              | none => simp
              | some estimate =>
                  cases measured : isClockSkewed estimate server policy.threshold <;>
                    simp [measured]

/-- The verdict was measured, and is against the clock. -/
def Skew.Verdict.isMeasured : Verdict → Bool
  | .skewed _ => true
  | _ => false

namespace ServiceFailure

variable {failure : ServiceFailure} {now : Instant} {verdict : Verdict}

/-- The code leaves it open, and the clocks put the failure down to skew. -/
def MeasuresSkew (failure : ServiceFailure) (now : Instant) : Prop :=
  ErrorCode.isDefiniteSkew failure.details.code = false ∧
    failure.policy.suspects (failure.observation now) = true ∧
      ∃ server estimate, failure.serverTime? = some server ∧
        now.sub? failure.clockOffset = some estimate ∧
        isClockSkewed estimate server failure.policy.threshold = true

/-- The service sent a date that cannot be read. -/
def hasUnreadableDate (failure : ServiceFailure) : Bool :=
  failure.dateHeader?.any fun date => (HttpDate.read? date).isNone

theorem measuresSkew_iff_of_verdict? (isVerdict : failure.verdict? now = some verdict) :
    failure.MeasuresSkew now ↔ verdict.isMeasured = true := by
  constructor
  · rintro ⟨uncertain, suspected, server, estimate, known, goneBack, skewed⟩
    have isSkewed : failure.verdict? now = some (.skewed (clockSkew estimate server)) :=
      Policy.judge?_eq_some_skewed_iff.mpr
        ⟨uncertain, suspected, server, estimate, known, goneBack, skewed, rfl⟩
    cases Option.some.inj (isVerdict.symm.trans isSkewed)
    rfl
  · intro measured
    cases verdict with
    | skewed residual =>
        rcases Policy.judge?_eq_some_skewed_iff.mp isVerdict with
          ⟨uncertain, suspected, server, estimate, known, goneBack, skewed, -⟩
        exact ⟨uncertain, suspected, server, estimate, known, goneBack, skewed⟩
    | _ => contradiction

theorem kindAfter_eq_clockSkew_iff :
    failure.kindAfter verdict = .clockSkew ↔ verdict.isSkewed = true := by
  unfold kindAfter
  cases verdict.isSkewed <;> cases failure.isThrottling <;> cases failure.isRetryable <;> simp

/-- Without a readable date only the code can blame the clock. -/
theorem isSkewed_eq_of_hasUnreadableDate (unreadable : failure.hasUnreadableDate = true)
    (isVerdict : failure.verdict? now = some verdict) :
    verdict.isSkewed = ErrorCode.isDefiniteSkew failure.details.code := by
  have unknown : (failure.observation now).serverTime = none := by
    rcases (Option.any_eq_true ..).mp unreadable with ⟨date, isDate, unread⟩
    change failure.dateHeader?.bind HttpDate.read? = none
    rw [isDate]
    exact Option.isNone_iff_eq_none.mp unread
  have judged : failure.isClockSkew? now = some verdict.isSkewed := by
    rw [isClockSkew?, isVerdict, Option.map_some]
  cases certain : ErrorCode.isDefiniteSkew failure.details.code with
  | true => exact Option.some.inj (judged.symm.trans (Policy.isSkewed?_of_isDefiniteSkew certain))
  | false =>
      have cleared : failure.isClockSkew? now = some false :=
        Policy.isSkewed?_eq_some_false_iff.mpr ⟨certain, .inr (.inl unknown)⟩
      exact Option.some.inj (judged.symm.trans cleared)

end ServiceFailure

/-! ## Messages -/

namespace Retry

/-- The message about a date that cannot be read. -/
def unreadableMessage : String := "ignoring unparseable Date header"

/-- The messages that tell what is done about a failure. -/
def Decision.closing : Decision → List String
  | .retry _ => ["retrying"]
  | .retryWithClockSkew _ _ => ["retrying with corrected clock skew"]
  | .giveUp .attemptsExhausted => ["giving up after exhausting retry attempts"]
  | .giveUp .notRetryable => []

/-- The messages of events, apart from those about dates that cannot be read. -/
def story (events : List Event) : List String :=
  (events.map Event.message).filter (· ≠ unreadableMessage)

/-- How many events are about a date that cannot be read. -/
def complaints (events : List Event) : Nat :=
  (events.map Event.message).count unreadableMessage

@[simp]
theorem story_nil : story [] = [] := rfl

@[simp]
theorem complaints_nil : complaints [] = 0 := rfl

@[simp]
theorem story_append (first second : List Event) :
    story (first ++ second) = story first ++ story second := by
  simp [story]

@[simp]
theorem complaints_append (first second : List Event) :
    complaints (first ++ second) = complaints first + complaints second := by
  simp [complaints]

end Retry

namespace ServiceFailure

variable {failure : ServiceFailure} {verdict : Verdict}

/-- A date that cannot be read is no part of the story. -/
@[simp]
theorem story_dateEvents (failure : ServiceFailure) : story failure.dateEvents = [] := by
  unfold dateEvents
  split
  · rfl
  · split
    · rfl
    · simp [story, Event.message, unreadableMessage]

/-- Each reading of a date that cannot be read is reported once. -/
theorem complaints_dateEvents (failure : ServiceFailure) :
    complaints failure.dateEvents = if failure.hasUnreadableDate then 1 else 0 := by
  unfold dateEvents hasUnreadableDate
  cases failure.dateHeader? with
  | none => rfl
  | some date =>
      cases read : HttpDate.read? date <;>
        simp [complaints, read, Event.message, unreadableMessage]

/-- Only measured skew is told before the kind. -/
theorem story_verdictEvents (failure : ServiceFailure) (verdict : Verdict) :
    story (failure.verdictEvents verdict) =
      if verdict.isMeasured then ["clock skew detected"] else [] := by
  unfold verdictEvents
  rw [story_append, story_dateEvents]
  cases verdict <;> simp [story, Verdict.isMeasured, Event.message, unreadableMessage]

theorem complaints_verdictEvents (failure : ServiceFailure) (verdict : Verdict) :
    complaints (failure.verdictEvents verdict) =
      if failure.hasUnreadableDate then 1 else 0 := by
  unfold verdictEvents
  rw [complaints_append, complaints_dateEvents]
  cases verdict <;> simp [complaints, Event.message, unreadableMessage]

end ServiceFailure

namespace Retry

variable {strategy : Strategy} {attempt : UInt32} {failure : ServiceFailure} {now : Instant}
  {logged : Logged Decision}

namespace Strategy

/-- The service's time is read again when a wrong clock is to be corrected. -/
def readsAgain (strategy : Strategy) (attempt : UInt32) (kind : FailureKind) : Bool :=
  kind = .clockSkew && attempt < strategy.maxAttempts

theorem story_decisionEvents (strategy : Strategy) (attempt : UInt32) (kind : FailureKind)
    (failure : ServiceFailure) (decision : Decision) :
    story (strategy.decisionEvents attempt kind failure decision) = decision.closing := by
  unfold decisionEvents
  rw [story_append, apply_ite story, ServiceFailure.story_dateEvents, story_nil, ite_self]
  rcases decision with delay | ⟨delay, clockSkew⟩ | ⟨_ | _⟩ <;>
    simp [story, Decision.closing, Event.message, unreadableMessage]

theorem complaints_decisionEvents (strategy : Strategy) (attempt : UInt32) (kind : FailureKind)
    (failure : ServiceFailure) (decision : Decision) :
    complaints (strategy.decisionEvents attempt kind failure decision) =
      if strategy.readsAgain attempt kind then if failure.hasUnreadableDate then 1 else 0
      else 0 := by
  unfold decisionEvents
  rw [complaints_append, apply_ite complaints, ServiceFailure.complaints_dateEvents,
    complaints_nil]
  rcases decision with delay | ⟨delay, clockSkew⟩ | ⟨_ | _⟩ <;>
    simp [complaints, readsAgain, Event.message, unreadableMessage]

/-- A decision to wait is the last event. -/
theorem getLast?_decisionEvents_retry (strategy : Strategy) (attempt : UInt32)
    (kind : FailureKind) (failure : ServiceFailure) (delay : Delay) :
    (strategy.decisionEvents attempt kind failure (.retry delay)).getLast? =
      some (.retrying attempt delay kind) := by
  simp [decisionEvents]

/-- A decision with its events comes from one verdict about the clock. -/
theorem exists_verdict_of_decideLogged?
    (decided : strategy.decideLogged? attempt failure now = some logged) :
    ∃ verdict, failure.verdict? now = some verdict ∧
      logged.events = failure.verdictEvents verdict ++
        ([.classified failure.status failure.details.code (failure.kindAfter verdict)] ++
          strategy.decisionEvents attempt (failure.kindAfter verdict) failure
            logged.value) := by
  rw [decideLogged?, ServiceFailure.classify?, Option.map_map] at decided
  rcases Option.map_eq_some_iff.mp decided with ⟨verdict, isVerdict, rfl⟩
  exact ⟨verdict, isVerdict, List.append_assoc ..⟩

end Strategy

/-! ## The trail -/

/-- What the events of a decision tell. -/
structure Trail (strategy : Strategy) (attempt : UInt32) (failure : ServiceFailure)
    (now : Instant) (decision : Decision) (events : List Event) : Prop where
  /-- Skew that was measured comes before the kind. -/
  measured : failure.MeasuresSkew now →
    story events = "clock skew detected" :: "classified service error" :: decision.closing
  /-- Otherwise the kind comes first. -/
  unmeasured : ¬ failure.MeasuresSkew now →
    story events = "classified service error" :: decision.closing
  /-- A wait is told last, in milliseconds. -/
  waits : ∀ delay, decision = .retry delay → ∃ event, events.getLast? = some event ∧
    event.message = "retrying" ∧
    ("delay_ms", FieldValue.number delay.millisecondsWord.toNat) ∈ event.fields
  /-- A date that cannot be read is reported once, and once more before a clock that the
  code calls wrong would be corrected. -/
  unreadable : complaints events =
    if failure.hasUnreadableDate then
      if ErrorCode.isDefiniteSkew failure.details.code ∧ attempt < strategy.maxAttempts then 2
      else 1
    else 0

/-- Every decision leaves its trail. -/
theorem Trail.of_decideLogged?
    (decided : strategy.decideLogged? attempt failure now = some logged) :
    Trail strategy attempt failure now logged.value logged.events := by
  rcases Strategy.exists_verdict_of_decideLogged? decided with ⟨verdict, isVerdict, isTrail⟩
  have told : story logged.events =
      (if verdict.isMeasured then ["clock skew detected"] else []) ++
        "classified service error" :: logged.value.closing := by
    rw [isTrail, story_append, story_append, ServiceFailure.story_verdictEvents,
      Strategy.story_decisionEvents]
    simp [story, Event.message, unreadableMessage]
  have measures := ServiceFailure.measuresSkew_iff_of_verdict? isVerdict
  constructor
  · intro measured
    rw [told, if_pos (measures.mp measured)]
    rfl
  · intro unmeasured
    rw [told, if_neg (mt measures.mpr unmeasured)]
    rfl
  · rintro delay isRetry
    refine ⟨.retrying attempt delay (failure.kindAfter verdict), ?_, rfl, ?_⟩
    · rw [isTrail, isRetry, ← List.append_assoc, List.getLast?_append,
        Strategy.getLast?_decisionEvents_retry, Option.some_or]
    · simp [Event.fields]
  · rw [isTrail, complaints_append, complaints_append, ServiceFailure.complaints_verdictEvents,
      Strategy.complaints_decisionEvents]
    cases unreadable : failure.hasUnreadableDate with
    | false => simp [complaints, Event.message, unreadableMessage]
    | true =>
        have certain := ServiceFailure.isSkewed_eq_of_hasUnreadableDate unreadable isVerdict
        cases code : ErrorCode.isDefiniteSkew failure.details.code <;>
          by_cases allowed : attempt < strategy.maxAttempts <;>
          simp [complaints, Event.message, unreadableMessage, Strategy.readsAgain,
            ServiceFailure.kindAfter_eq_clockSkew_iff, certain, code, allowed]

end Retry

end Triage

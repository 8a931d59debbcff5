import Mathlib.Algebra.Ring.Nat
import Triage.Proofs.Retry.CarriedOffset
import Triage.Proofs.Retry.EventTrail

/-!
# Counters follow decisions

After every call of a run the counters show how many of the decisions so far try again,
give up and correct a clock.  A call whose clock cannot be judged counts nothing, and
every other call leaves the trail of its decision.
-/

namespace Triage.Retry

open Triage.Log Triage.Time

/-! ## Counters -/

namespace Decision

/-- The work is given up. -/
def givesUp : Decision → Bool
  | giveUp _ => true
  | _ => false

/-- A new belief about the clock is handed out. -/
def corrects : Decision → Bool
  | retryWithClockSkew _ _ => true
  | _ => false

end Decision

/-- A tally that counts up. -/
theorem Counter.increment_tally_ofNat (number : Nat) :
    (tally (Int64.ofNat number)).increment = tally (Int64.ofNat (number + 1)) := by
  rw [Int64.ofNat_add]
  rfl

namespace Metrics

/-- What counters show that have counted decisions from zero on. -/
def ofDecisions (decisions : List Decision) : Metrics where
  retries := .tally (Int64.ofNat (decisions.countP Decision.shouldRetry))
  giveUps := .tally (Int64.ofNat (decisions.countP Decision.givesUp))
  corrections := .tally (Int64.ofNat (decisions.countP Decision.corrects))

theorem record_ofDecisions (decisions : List Decision) (decision : Decision) :
    (ofDecisions decisions).record decision = ofDecisions (decisions ++ [decision]) := by
  cases decision <;>
    simp [ofDecisions, record, Counter.increment_tally_ofNat, Decision.shouldRetry,
      Decision.givesUp, Decision.corrects]

/-- Counting decisions one after the other counts them all. -/
theorem foldl_record_ofDecisions (earlier later : List Decision) :
    later.foldl record (ofDecisions earlier) = ofDecisions (earlier ++ later) := by
  induction later generalizing earlier with
  | nil => rw [List.foldl_nil, List.append_nil]
  | cons decision later ih =>
      rw [List.foldl_cons, record_ofDecisions, ih, List.append_assoc, List.singleton_append]

/-- The counters show how many decisions are of each kind. -/
structure Shows (metrics : Metrics) (decisions : List Decision) : Prop where
  retries : metrics.retries.count.toInt = decisions.countP Decision.shouldRetry
  giveUps : metrics.giveUps.count.toInt = decisions.countP Decision.givesUp
  corrections : metrics.corrections.count.toInt = decisions.countP Decision.corrects

/-- Counters do not overflow on fewer than `2 ^ 63` decisions. -/
theorem shows_ofDecisions {decisions : List Decision} (few : decisions.length < 2 ^ 63) :
    (ofDecisions decisions).Shows decisions := by
  have fits (kind : Decision → Bool) : decisions.countP kind < 2 ^ 63 :=
    Nat.lt_of_le_of_lt List.countP_le_length few
  constructor <;> exact Int64.toInt_ofNat_of_lt (fits _)

/-- Every decision either tries again or gives up. -/
theorem Shows.retries_add_giveUps {metrics : Metrics} {decisions : List Decision}
    (shows : metrics.Shows decisions) :
    metrics.retries.count.toInt + metrics.giveUps.count.toInt = decisions.length := by
  have either : decisions.countP Decision.givesUp =
      decisions.countP fun decision => ¬ decision.shouldRetry = true := by
    congr 1
    funext decision
    cases decision <;> rfl
  rw [shows.retries, shows.giveUps, either, List.length_eq_countP_add_countP Decision.shouldRetry,
    Int.natCast_add]

/-- Every correction tries again. -/
theorem Shows.corrections_le_retries {metrics : Metrics} {decisions : List Decision}
    (shows : metrics.Shows decisions) :
    metrics.corrections.count.toInt ≤ metrics.retries.count.toInt := by
  rw [shows.retries, shows.corrections, Int.ofNat_le]
  apply List.countP_mono_left
  intro decision _ corrects
  cases decision with
  | retryWithClockSkew delay clockSkew => rfl
  | _ => contradiction

end Metrics

/-! ## Runs -/

namespace Session

variable {strategy : Strategy} {session before after : Session} {attempt : Attempt}
  {attempts : List Attempt} {decided : Option (Logged Decision)} {place : Nat}

/-- The decisions of a run, in order; a call whose clock cannot be judged has none. -/
def decisions (answers : List (Session × Option (Logged Decision))) : List Decision :=
  answers.filterMap fun answer => answer.2.map Logged.value

/-- The sessions between the calls of a run, the one at its start included. -/
def states (strategy : Strategy) (session : Session) (attempts : List Attempt) :
    List Session :=
  session :: (session.run strategy attempts).map Prod.fst

/-- A call changes nothing unless it decides. -/
theorem step_fst_of_undecided (strategy : Strategy) (session : Session) (attempt : Attempt)
    (undecided : (session.step strategy attempt).2 = none) :
    (session.step strategy attempt).1 = session := by
  unfold step at undecided ⊢
  split
  · rfl
  · rename_i decided
    simp [decided] at undecided

/-- A call counts its decision. -/
theorem metrics_step (strategy : Strategy) (session : Session) (attempt : Attempt) :
    (session.step strategy attempt).1.metrics =
      (decisions [session.step strategy attempt]).foldl Metrics.record session.metrics := by
  unfold step decisions
  split <;> rfl

theorem decisions_cons (answer : Session × Option (Logged Decision))
    (later : List (Session × Option (Logged Decision))) :
    decisions (answer :: later) = decisions [answer] ++ decisions later := by
  simp [decisions, List.filterMap_cons]
  split <;> rfl

theorem run_cons (strategy : Strategy) (session : Session) (attempt : Attempt)
    (later : List Attempt) :
    session.run strategy (attempt :: later) =
      session.step strategy attempt :: (session.step strategy attempt).1.run strategy later :=
  rfl

/-- Each answer of a run is the answer to one call. -/
theorem exists_state_of_run (strategy : Strategy) (session : Session)
    (reached : attempts[place]? = some attempt) :
    ∃ before, (states strategy session attempts)[place]? = some before ∧
      (session.run strategy attempts)[place]? = some (before.step strategy attempt) ∧
      before.carriesOffset = session.carriesOffset := by
  induction attempts generalizing session place with
  | nil => simp at reached
  | cons first later ih =>
      cases place with
      | zero =>
          obtain rfl : first = attempt := by simpa using reached
          exact ⟨session, rfl, rfl, rfl⟩
      | succ place =>
          rcases ih (session.step strategy first).1 reached with ⟨before, isBefore, answered, same⟩
          exact ⟨before, isBefore, answered, same.trans (carriesOffset_step ..)⟩

/-- A client that carries nothing over sends each failure as it is. -/
theorem failureOf_of_not_carriesOffset (carriesNot : before.carriesOffset = false) :
    before.failureOf attempt = attempt.failure := by
  unfold failureOf
  split <;> simp [carriesNot]

/-- After each call the counters have counted the decisions so far. -/
theorem metrics_run (reached : (session.run strategy attempts)[place]? = some (after, decided)) :
    after.metrics = (decisions ((session.run strategy attempts).take (place + 1))).foldl
      Metrics.record session.metrics := by
  induction attempts generalizing session place with
  | nil => simp [run] at reached
  | cons attempt later ih =>
      rw [run_cons] at reached ⊢
      rw [List.take_succ_cons, decisions_cons, List.foldl_append, ← metrics_step]
      cases place with
      | zero =>
          have answered : session.step strategy attempt = (after, decided) := by
            simpa using reached
          rw [answered]
          rfl
      | succ place => exact ih (by simpa using reached)

theorem metrics_run_start {carriesOffset : Bool}
    (reached : ((start Metrics.zero carriesOffset).run strategy attempts)[place]? =
      some (after, decided)) :
    after.metrics = Metrics.ofDecisions
      (decisions (((start Metrics.zero carriesOffset).run strategy attempts).take (place + 1))) :=
  (metrics_run reached).trans (Metrics.foldl_record_ofDecisions [] _)

theorem length_run (strategy : Strategy) (session : Session) (attempts : List Attempt) :
    (session.run strategy attempts).length = attempts.length := by
  induction attempts generalizing session with
  | nil => rfl
  | cons attempt later ih => rw [run_cons, List.length_cons, ih, List.length_cons]

/-- What a call of a run decides, counts and tells: its decision is the strategy's, a
call without a decision leaves the session alone, the counters show the decisions so
far, and the events of a decision are its trail.  Attempts, failures and clocks are
arbitrary, and so is whether corrections are carried over. -/
theorem counters_and_events_follow_decisions (strategy : Strategy) (carriesOffset : Bool)
    (attempts : List Attempt) (few : attempts.length < 2 ^ 63) (place : Nat)
    (attempt : Attempt) (reached : attempts[place]? = some attempt) :
    ∃ before after decided failure,
      (states strategy (start Metrics.zero carriesOffset) attempts)[place]? = some before ∧
      ((start Metrics.zero carriesOffset).run strategy attempts)[place]? =
        some (after, decided) ∧
      failure = before.failureOf attempt ∧
      (carriesOffset = false → failure = attempt.failure) ∧
      decided.map Logged.value = strategy.decide? attempt.number failure attempt.now ∧
      (decided = none → after = before) ∧
      after.metrics.Shows (decisions
        (((start Metrics.zero carriesOffset).run strategy attempts).take (place + 1))) ∧
      after.metrics.retries.count.toInt + after.metrics.giveUps.count.toInt =
        (decisions
          (((start Metrics.zero carriesOffset).run strategy attempts).take (place + 1))).length ∧
      after.metrics.corrections.count.toInt ≤ after.metrics.retries.count.toInt ∧
      ∀ logged, decided = some logged →
        Trail strategy attempt.number failure attempt.now logged.value logged.events := by
  rcases exists_state_of_run strategy (start Metrics.zero carriesOffset) reached with
    ⟨before, isBefore, answered, carries⟩
  have isDecided := decided_step strategy before attempt
  have unchanged := step_fst_of_undecided strategy before attempt
  obtain ⟨after, decided, answer⟩ : ∃ after decided,
      before.step strategy attempt = (after, decided) := ⟨_, _, rfl⟩
  rw [answer] at answered isDecided unchanged
  change decided = _ at isDecided
  have fewDecisions : (decisions
      (((start Metrics.zero carriesOffset).run strategy attempts).take (place + 1))).length <
        2 ^ 63 := by
    apply Nat.lt_of_le_of_lt (Nat.le_trans (List.length_filterMap_le ..) (List.length_take_le' ..))
    rwa [length_run]
  have shows := Metrics.shows_ofDecisions fewDecisions
  rw [← metrics_run_start answered] at shows
  refine ⟨before, after, decided, _, isBefore, answered, rfl, ?_, ?_, unchanged, shows,
    shows.retries_add_giveUps, shows.corrections_le_retries, ?_⟩
  · intro carriesNot
    exact failureOf_of_not_carriesOffset (carries.trans carriesNot)
  · rw [isDecided, Strategy.value_decideLogged?]
  · rintro logged rfl
    exact Trail.of_decideLogged? isDecided.symm

/-- A request that came too late according to the service, with a date that cannot be
read. -/
def undatable : ServiceFailure :=
  ServiceFailure.ofAnswer "RequestExpired" 403 (some "yesterday")

/-- Five calls: a busy service, a clock an hour ahead, a belief about the clock that
leaves the calendar, a failure that nothing helps, and a late request. -/
def mixedCalls : List Attempt :=
  let now := (Instant.ofParts? 19791 62405 0).get rfl
  let ahead := ServiceFailure.ofAnswer "" 401 (some "Sat, 09 Mar 2024 16:20:00 GMT")
  [⟨1, ServiceFailure.ofAnswer "" 500 none, now⟩,
    ⟨1, ahead, now⟩,
    ⟨2, ahead.withClockOffset ⟨Span.limit, by decide, by decide⟩, now⟩,
    ⟨1, ServiceFailure.ofAnswer "" 400 none, now⟩,
    ⟨2, undatable, now⟩]

theorem counters_and_events_follow_decisions_mixedCalls :
    mixedCalls.length < 2 ^ 63 ∧
      mixedCalls[4]? = some ⟨2, undatable, (Instant.ofParts? 19791 62405 0).get rfl⟩ ∧
      ∃ after logged,
        ((start Metrics.zero false).run Strategy.standard mixedCalls)[4]? =
          some (after, some logged) ∧
        after.metrics.retries.count.toInt = 3 ∧
        after.metrics.giveUps.count.toInt = 1 ∧
        after.metrics.corrections.count.toInt = 1 ∧
        story logged.events = ["classified service error", "retrying"] ∧
        complaints logged.events = 2 := by
  have few : mixedCalls.length < 2 ^ 63 := by decide
  obtain ⟨before, after, decided, failure, -, answered, -, isFailure, isDecision, -, shows, -, -,
    trail⟩ := counters_and_events_follow_decisions Strategy.standard false mixedCalls few 4 _ rfl
  obtain rfl : failure = undatable := isFailure rfl
  have closes : (Strategy.standard.decide? 2 undatable
      ((Instant.ofParts? 19791 62405 0).get rfl)).map Decision.closing = some ["retrying"] := by
    decide +kernel
  rw [← isDecision, Option.map_map] at closes
  rcases Option.map_eq_some_iff.mp closes with ⟨logged, rfl, closing⟩
  have certain : ¬ undatable.MeasuresSkew ((Instant.ofParts? 19791 62405 0).get rfl) := by
    rintro ⟨uncertain, -⟩
    revert uncertain
    decide
  refine ⟨few, rfl, after, logged, answered, ?_, ?_, ?_, ?_, ?_⟩
  · rw [shows.retries]
    decide +kernel
  · rw [shows.giveUps]
    decide +kernel
  · rw [shows.corrections]
    decide +kernel
  · rw [(trail logged rfl).unmeasured certain, ← closing]
    rfl
  · rw [(trail logged rfl).unreadable]
    decide +kernel

end Session

end Triage.Retry

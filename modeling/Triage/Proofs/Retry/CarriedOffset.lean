import Triage.Proofs.Retry.ClockCorrection
import Triage.Retry.Session

/-!
# Runs that carry their corrections

A client that carries a correction over to its later requests is corrected at most
once while the clocks drift apart by less than the threshold.  The offset that is
carried always is the difference of the clocks at the one correction, so every later
estimate is off by the drift since then; no status, attempt or missing header in
between changes that.
-/

namespace Triage.Retry

open Triage.Log Triage.Skew Triage.Time

/-! ## Attempts -/

namespace Attempt

/-- The code leaves it to the clocks whether they are wrong. -/
def Uncertain (attempt : Attempt) : Prop :=
  ErrorCode.isDefiniteSkew attempt.failure.details.code = false

/-- Neither clock shows a leap second. -/
def WithoutLeap (attempt : Attempt) : Prop :=
  ¬ attempt.now.IsLeap ∧ ∀ server ∈ attempt.failure.serverTime?, ¬ server.IsLeap

/-- From one attempt to a later one the difference of the clocks changes by less than
the later attempt's threshold, as far as the service's time is known. -/
def DriftsLittle (earlier later : Attempt) : Prop :=
  ∀ earlierServer ∈ earlier.failure.serverTime?,
    ∀ laterServer ∈ later.failure.serverTime?,
      (later.now.nanosecondsSince laterServer -
        earlier.now.nanosecondsSince earlierServer).natAbs <
          later.failure.policy.threshold.nanoseconds

instance (attempt : Attempt) : Decidable attempt.Uncertain :=
  inferInstanceAs (Decidable (_ = _))

instance (attempt : Attempt) : Decidable attempt.WithoutLeap :=
  inferInstanceAs (Decidable (_ ∧ _))

instance (earlier later : Attempt) : Decidable (earlier.DriftsLittle later) :=
  inferInstanceAs (Decidable (∀ earlierServer ∈ earlier.failure.serverTime?,
    ∀ laterServer ∈ later.failure.serverTime?,
      (later.now.nanosecondsSince laterServer -
        earlier.now.nanosecondsSince earlierServer).natAbs <
          later.failure.policy.threshold.nanoseconds))

end Attempt

/-- Only a corrected clock changes the belief about it. -/
theorem Decision.clockSkew?_eq_some_iff {decision : Decision} {skew : Span} :
    decision.clockSkew? = some skew ↔ ∃ delay, decision = .retryWithClockSkew delay skew := by
  cases decision <;> simp [clockSkew?]

namespace Session

variable {strategy : Strategy} {session : Session} {attempt : Attempt}

/-! ## Failures as they are sent -/

@[simp]
theorem serverTime?_failureOf (session : Session) (attempt : Attempt) :
    (session.failureOf attempt).serverTime? = attempt.failure.serverTime? := by
  unfold failureOf
  split
  · split <;> rfl
  · rfl

theorem failureOf_of_offset {offset : Span} (carries : session.carriesOffset = true)
    (isOffset : session.offset = some offset) :
    session.failureOf attempt = attempt.failure.withClockOffset offset := by
  simp [failureOf, carries, isOffset]

/-! ## Corrections of a run -/

/-- The correction that a step hands out. -/
def correction? (decided : Option (Logged Decision)) : Option Span :=
  decided.bind fun logged => logged.value.clockSkew?

/-- The corrections that a run hands out, in order. -/
def corrections (answers : List (Session × Option (Logged Decision))) : List Span :=
  answers.filterMap fun answer => correction? answer.2

/-- A step decides about the failure as it is sent. -/
theorem decided_step (strategy : Strategy) (session : Session) (attempt : Attempt) :
    (session.step strategy attempt).2 =
      strategy.decideLogged? attempt.number (session.failureOf attempt) attempt.now := by
  unfold step
  split
  · rename_i failed
    exact failed.symm
  · rename_i decided
    exact decided.symm

/-- A step hands out a correction only for a wrong clock, and then the difference of
the clocks. -/
theorem wrongClock_of_correction? {skew : Span}
    (corrected : correction? (session.step strategy attempt).2 = some skew) :
    (session.failureOf attempt).isClockSkew? attempt.now = some true ∧
      ∃ server, attempt.failure.serverTime? = some server ∧
        skew = clockSkew attempt.now server := by
  rw [decided_step] at corrected
  obtain ⟨logged, decided, isCorrection⟩ := Option.bind_eq_some_iff.mp corrected
  obtain ⟨delay, isDecision⟩ := Decision.clockSkew?_eq_some_iff.mp isCorrection
  have decision : strategy.decide? attempt.number (session.failureOf attempt) attempt.now =
      some (.retryWithClockSkew delay skew) := by
    rw [← Strategy.value_decideLogged?, decided, Option.map_some, isDecision]
  obtain ⟨judged, -, -, server, known, isSkew⟩ :=
    Strategy.decide?_eq_retryWithClockSkew_iff.mp decision
  rw [serverTime?_failureOf] at known
  exact ⟨judged, server, known, isSkew⟩

/-- A step carries its own correction, or else what was carried before. -/
theorem offset_step (strategy : Strategy) (session : Session) (attempt : Attempt) :
    (session.step strategy attempt).1.offset =
      (correction? (session.step strategy attempt).2).or session.offset := by
  unfold step
  split <;> rfl

@[simp]
theorem carriesOffset_step (strategy : Strategy) (session : Session) (attempt : Attempt) :
    (session.step strategy attempt).1.carriesOffset = session.carriesOffset := by
  unfold step
  split <;> rfl

theorem corrections_run_cons (strategy : Strategy) (session : Session) (attempt : Attempt)
    (later : List Attempt) :
    corrections (session.run strategy (attempt :: later)) =
      (correction? (session.step strategy attempt).2).toList ++
        corrections ((session.step strategy attempt).1.run strategy later) := by
  rw [run, corrections, List.filterMap_cons]
  split <;> simp_all [corrections]

/-! ## The carried offset -/

/-- The session carries the difference of the clocks at an earlier attempt. -/
def CarriesFrom (earlier : Attempt) (session : Session) : Prop :=
  session.carriesOffset = true ∧
    ∃ server, earlier.failure.serverTime? = some server ∧
      session.offset = some (clockSkew earlier.now server)

/-- A corrected attempt is the one whose difference is carried from then on. -/
theorem carriesFrom_of_correction? {skew : Span} (carries : session.carriesOffset = true)
    (corrected : correction? (session.step strategy attempt).2 = some skew) :
    CarriesFrom attempt (session.step strategy attempt).1 := by
  obtain ⟨-, server, known, rfl⟩ := wrongClock_of_correction? corrected
  refine ⟨by rw [carriesOffset_step, carries], server, known, ?_⟩
  rw [offset_step, corrected, Option.some_or]

/-- While the clocks drift little, a step with a carried difference corrects nothing. -/
theorem correction?_step_eq_none {earlier : Attempt} (carried : CarriesFrom earlier session)
    (plain : attempt.WithoutLeap) (uncertain : attempt.Uncertain)
    (drift : earlier.DriftsLittle attempt) :
    correction? (session.step strategy attempt).2 = none := by
  obtain ⟨carries, earlierServer, earlierKnown, isOffset⟩ := carried
  rw [Option.eq_none_iff_forall_ne_some]
  intro skew corrected
  obtain ⟨wrong, server, known, -⟩ := wrongClock_of_correction? corrected
  rw [failureOf_of_offset carries isOffset] at wrong
  rcases Policy.isSkewed?_eq_some_true_iff.mp wrong with
    certain | ⟨-, server', estimate, known', goneBack, skewed⟩
  · have certain' : ErrorCode.isDefiniteSkew attempt.failure.details.code = true := certain
    rw [uncertain] at certain'
    contradiction
  · obtain rfl : server = server' := Option.some.inj (known.symm.trans known')
    -- The estimate is off by the drift since the correction.
    have residual : estimate.nanosecondsSince server =
        attempt.now.nanosecondsSince server -
          earlier.now.nanosecondsSince earlierServer :=
      Instant.nanosecondsSince_sub? plain.1 (plain.2 server known) goneBack
    rw [isClockSkewed_iff, residual] at skewed
    exact Int.not_lt.mpr skewed (drift earlierServer earlierKnown server known)

/-- Without a correction the carried difference stays. -/
theorem CarriesFrom.step {earlier : Attempt} (carried : CarriesFrom earlier session)
    (uncorrected : correction? (session.step strategy attempt).2 = none) :
    CarriesFrom earlier (session.step strategy attempt).1 := by
  obtain ⟨carries, server, known, isOffset⟩ := carried
  refine ⟨by rw [carriesOffset_step, carries], server, known, ?_⟩
  rw [offset_step, uncorrected, Option.none_or, isOffset]

/-- After a correction, a run with little drift since then hands out no other one. -/
theorem corrections_run_eq_nil {earlier : Attempt} (carried : CarriesFrom earlier session)
    {attempts : List Attempt}
    (plain : ∀ attempt ∈ attempts, attempt.WithoutLeap)
    (uncertain : ∀ attempt ∈ attempts, attempt.Uncertain)
    (drift : ∀ attempt ∈ attempts, earlier.DriftsLittle attempt) :
    corrections (session.run strategy attempts) = [] := by
  induction attempts generalizing session with
  | nil => rfl
  | cons attempt later ih =>
      rw [List.forall_mem_cons] at plain uncertain drift
      have uncorrected : correction? (session.step strategy attempt).2 = none :=
        correction?_step_eq_none carried plain.1 uncertain.1 drift.1
      rw [corrections_run_cons, uncorrected]
      exact ih (carried.step uncorrected) plain.2 uncertain.2 drift.2

/-- A client that carries its corrections over is corrected at most once in a run in
which no code is certain, no clock shows a leap second, and the difference of the
clocks changes by less than the threshold between any two attempts.  Attempts,
statuses, policies, offsets and the session at the start are arbitrary, and a step
whose estimate leaves the calendar hands out nothing. -/
theorem at_most_one_correction {strategy : Strategy} {session : Session}
    {attempts : List Attempt} (carries : session.carriesOffset = true)
    (uncertain : ∀ attempt ∈ attempts, attempt.Uncertain)
    (plain : ∀ attempt ∈ attempts, attempt.WithoutLeap)
    (drift : attempts.Pairwise Attempt.DriftsLittle) :
    (corrections (session.run strategy attempts)).length ≤ 1 := by
  -- Until the first correction the carried offset may be anything.
  induction attempts generalizing session with
  | nil => exact Nat.zero_le 1
  | cons attempt later ih =>
      rw [List.forall_mem_cons] at plain uncertain
      rw [List.pairwise_cons] at drift
      rw [corrections_run_cons]
      cases corrected : correction? (session.step strategy attempt).2 with
      | none =>
          have carriesOn : (session.step strategy attempt).1.carriesOffset = true := by
            rw [carriesOffset_step, carries]
          exact ih carriesOn uncertain.2 plain.2 drift.2
      | some skew =>
          have carried := carriesFrom_of_correction? carries corrected
          rw [corrections_run_eq_nil carried plain.2 uncertain.2 drift.1]
          exact Nat.le_refl 1

/-- Three failures of a client that is an hour ahead and gains a second on the way. -/
def hourAhead : List Attempt :=
  [⟨1, ServiceFailure.ofAnswer "" 403 (some "Sat, 09 Mar 2024 16:20:00 GMT"),
      (Instant.ofParts? 19791 62400 0).get rfl⟩,
    ⟨2, ServiceFailure.ofAnswer "" 500 none,
      (Instant.ofParts? 19791 62401 0).get rfl⟩,
    ⟨3, ServiceFailure.ofAnswer "" 401 (some "Sat, 09 Mar 2024 16:20:01 GMT"),
      (Instant.ofParts? 19791 62402 0).get rfl⟩]

theorem at_most_one_correction_hourAhead :
    (∀ attempt ∈ hourAhead, attempt.Uncertain) ∧
      (∀ attempt ∈ hourAhead, attempt.WithoutLeap) ∧
      hourAhead.Pairwise Attempt.DriftsLittle ∧
      (corrections ((start Metrics.zero true).run Strategy.standard hourAhead)).map
        Span.seconds = [3600] ∧
      (corrections ((start Metrics.zero true).run Strategy.standard hourAhead)).length ≤ 1 := by
  have uncertain : ∀ attempt ∈ hourAhead, attempt.Uncertain := by decide
  have plain : ∀ attempt ∈ hourAhead, attempt.WithoutLeap := by decide +kernel
  have drift : hourAhead.Pairwise Attempt.DriftsLittle := by decide +kernel
  refine ⟨uncertain, plain, drift, ?_, at_most_one_correction rfl uncertain plain drift⟩
  decide +kernel

end Session

end Triage.Retry

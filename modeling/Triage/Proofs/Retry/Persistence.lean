import Mathlib.Data.Nat.Find
import Mathlib.Logic.Function.Iterate
import Triage.Proofs.Retry.Accounting

/-!
# Work that is tried until the strategy gives up

The first attempt has number one, and each failed attempt that is worth another one is
followed by the next number.  Whatever the attempts meet, the numbers stop at the
strategy's maximum at the latest, and before it only at a failure that another attempt
would not help.  A correction of the clock, which does not wait, uses up an attempt
like everything else.
-/

namespace Triage.Retry

open Triage.Log Triage.Time

/-- What an attempt meets: its failure, and the client's clock after it. -/
structure Setback where
  failure : ServiceFailure
  now : Instant

namespace Setback

/-- The clock can be judged. -/
def IsJudged (setback : Setback) : Prop :=
  (setback.failure.isClockSkew? setback.now).isSome = true

/-- The clock is wrong, or the failure allows another attempt. -/
def IsWorthRetrying (setback : Setback) : Prop :=
  setback.failure.isClockSkew? setback.now = some true ∨ setback.failure.isRetryable = true

instance (setback : Setback) : Decidable setback.IsJudged :=
  inferInstanceAs (Decidable (_ = _))

instance (setback : Setback) : Decidable setback.IsWorthRetrying :=
  inferInstanceAs (Decidable (_ ∨ _))

end Setback

/-! ## The loop -/

/-- Where work stands: before the attempt of a number, after its last attempt, or at one
of the two ends that it should never meet. -/
inductive Work where
  | trying (number : UInt32) (session : Session)
  | ended (number : UInt32) (decision : Decision) (session : Session)
  | unjudged
  | outOfNumbers

namespace Work

/-- The number of the next attempt, when it has 32 bits. -/
def nextNumber? (number : UInt32) : Option UInt32 :=
  if number.toNat + 1 < UInt32.size then some (number + 1) else none

/-- One attempt: it fails, and the strategy decides whether another one follows. -/
def advance (strategy : Strategy) (setbacks : Nat → Setback) : Work → Work
  | trying number session =>
      let setback := setbacks number.toNat
      match session.step strategy ⟨number, setback.failure, setback.now⟩ with
      | (_, none) => unjudged
      | (session, some decided) =>
          if decided.value.shouldRetry then
            match nextNumber? number with
            | some next => trying next session
            | none => outOfNumbers
          else
            ended number decided.value session
  | work => work

/-- The work after some attempts, when the counters start at zero. -/
def after (strategy : Strategy) (setbacks : Nat → Setback) (attempts : Nat) : Work :=
  (advance strategy setbacks)^[attempts] (trying 1 (Session.start Metrics.zero false))

variable {strategy : Strategy} {setbacks : Nat → Setback} {number : UInt32}
  {session : Session}

theorem nextNumber?_of_lt {limit : UInt32} (below : number < limit) :
    nextNumber? number = some (number + 1) ∧ (number + 1).toNat = number.toNat + 1 := by
  have small := limit.toNat_lt
  rw [UInt32.lt_iff_toNat_lt] at below
  constructor
  · rw [nextNumber?, if_pos (by simp only [UInt32.size]; omega)]
  · rw [UInt32.toNat_add]
    change (number.toNat + 1) % 2 ^ 32 = _
    omega

/-! ## One attempt -/

/-- The session before an attempt: every earlier attempt was counted as a retry. -/
structure HasTried (earlier : Nat) (session : Session) : Prop where
  carriesNot : session.carriesOffset = false
  retries : session.metrics.retries = .tally (Int64.ofNat earlier)

theorem hasTried_start : HasTried 0 (Session.start Metrics.zero false) := ⟨rfl, rfl⟩

theorem HasTried.count_retries {earlier : Nat} (tried : HasTried earlier session)
    (small : earlier < 2 ^ 63) : session.metrics.retries.count.toInt = earlier := by
  rw [tried.retries]
  exact Int64.toInt_ofNat_of_lt small

/-- Only decisions to try again are counted as retries. -/
theorem retries_record (metrics : Metrics) (decision : Decision) :
    (metrics.record decision).retries =
      if decision.shouldRetry then metrics.retries.increment else metrics.retries := by
  cases decision <;> rfl

/-- A decision leads to the next attempt or to the end, and is counted accordingly. -/
theorem advance_of_decide? {earlier : Nat} {decision : Decision}
    (tried : HasTried earlier session)
    (decided : strategy.decide? number (setbacks number.toNat).failure
      (setbacks number.toNat).now = some decision) :
    ∃ next, HasTried (if decision.shouldRetry then earlier + 1 else earlier) next ∧
      advance strategy setbacks (trying number session) =
        if decision.shouldRetry then
          match nextNumber? number with
          | some nextNumber => trying nextNumber next
          | none => outOfNumbers
        else
          ended number decision next := by
  rw [← Strategy.value_decideLogged?] at decided
  rcases Option.map_eq_some_iff.mp decided with ⟨logged, isLogged, rfl⟩
  let next : Session :=
    { session with
      metrics := session.metrics.record logged.value
      offset := logged.value.clockSkew?.or session.offset }
  have isStep : session.step strategy
      ⟨number, (setbacks number.toNat).failure, (setbacks number.toNat).now⟩ =
        (next, some logged) := by
    rw [Session.step, Session.failureOf_of_not_carriesOffset tried.carriesNot, isLogged]
  refine ⟨next, ⟨tried.carriesNot, ?_⟩, by rw [advance, isStep]⟩
  rw [retries_record, tried.retries]
  split
  · exact Counter.increment_tally_ofNat earlier
  · rfl

/-- A failure that another attempt would not help ends the work. -/
theorem advance_of_not_isWorthRetrying {earlier : Nat} (tried : HasTried earlier session)
    (judged : (setbacks number.toNat).IsJudged)
    (hopeless : ¬ (setbacks number.toNat).IsWorthRetrying) :
    ∃ final, HasTried earlier final ∧
      advance strategy setbacks (trying number session) =
        ended number (.giveUp .notRetryable) final := by
  rcases Option.isSome_iff_exists.mp judged with ⟨skewed, isSkewed⟩
  rcases not_or.mp hopeless with ⟨right, fatal⟩
  have right' : skewed = false := by simpa [isSkewed] using right
  subst right'
  exact advance_of_decide? tried
    (Strategy.decide?_of_not_isRetryable isSkewed (Bool.not_eq_true _ ▸ fatal))

/-- The last allowed attempt ends the work. -/
theorem advance_of_maxAttempts_le {earlier : Nat} (tried : HasTried earlier session)
    (judged : (setbacks number.toNat).IsJudged)
    (worthIt : (setbacks number.toNat).IsWorthRetrying)
    (exhausted : strategy.maxAttempts ≤ number) :
    ∃ final, HasTried earlier final ∧
      advance strategy setbacks (trying number session) =
        ended number (.giveUp .attemptsExhausted) final := by
  rcases Option.isSome_iff_exists.mp judged with ⟨skewed, isSkewed⟩
  rw [Setback.IsWorthRetrying, isSkewed, Option.some.injEq] at worthIt
  exact advance_of_decide? tried (Strategy.decide?_of_maxAttempts_le isSkewed worthIt exhausted)

/-- An earlier attempt is followed by the next one. -/
theorem advance_of_lt_maxAttempts {earlier : Nat} (tried : HasTried earlier session)
    (judged : (setbacks number.toNat).IsJudged)
    (worthIt : (setbacks number.toNat).IsWorthRetrying)
    (allowed : number < strategy.maxAttempts) :
    ∃ next, HasTried (earlier + 1) next ∧
      advance strategy setbacks (trying number session) = trying (number + 1) next := by
  rcases Option.isSome_iff_exists.mp judged with ⟨skewed, isSkewed⟩
  rw [Setback.IsWorthRetrying, isSkewed, Option.some.injEq] at worthIt
  obtain ⟨decision, decided, retries⟩ : ∃ decision,
      strategy.decide? number (setbacks number.toNat).failure (setbacks number.toNat).now =
        some decision ∧ decision.shouldRetry = true := by
    rcases Strategy.decide?_cases strategy number isSkewed with
      ⟨rfl, fatal, -⟩ | ⟨-, exhausted, -⟩ | ⟨server, -, -, -, row⟩ | ⟨-, -, -, row⟩
    · simp [fatal] at worthIt
    · exact absurd allowed (UInt32.not_lt.mpr exhausted)
    · exact ⟨_, row, rfl⟩
    · exact ⟨_, row, rfl⟩
  rcases advance_of_decide? tried decided with ⟨next, triedNext, isNext⟩
  rw [if_pos retries] at triedNext
  rw [if_pos retries, (nextNumber?_of_lt allowed).1] at isNext
  exact ⟨next, triedNext, isNext⟩

/-! ## The whole work -/

theorem after_succ (strategy : Strategy) (setbacks : Nat → Setback) (made : Nat) :
    after strategy setbacks (made + 1) = advance strategy setbacks (after strategy setbacks made) :=
  Function.iterate_succ_apply' ..

/-- Work that has ended stays so. -/
theorem after_of_ended {last made : Nat} {decision : Decision} {final : Session}
    (ends : after strategy setbacks last = ended number decision final) (later : last ≤ made) :
    after strategy setbacks made = ended number decision final := by
  rcases Nat.exists_eq_add_of_le later with ⟨idle, rfl⟩
  clear later
  induction idle with
  | zero => exact ends
  | succ idle ih =>
      rw [← Nat.add_assoc, after_succ, ih]
      rfl

/-- As long as every failure is worth another attempt, the attempts are numbered one by
one, up to the maximum. -/
theorem after_eq_trying {made : Nat} (below : made < strategy.maxAttempts.toNat)
    (judged : ∀ attempt, 1 ≤ attempt → attempt ≤ made → (setbacks attempt).IsJudged)
    (worthIt : ∀ attempt, 1 ≤ attempt → attempt ≤ made → (setbacks attempt).IsWorthRetrying) :
    ∃ number session, after strategy setbacks made = trying number session ∧
      number.toNat = made + 1 ∧ HasTried made session := by
  induction made with
  | zero => exact ⟨1, _, rfl, rfl, hasTried_start⟩
  | succ made ih =>
      have judgedEarlier := fun attempt first (le : attempt ≤ made) =>
        judged attempt first (Nat.le_succ_of_le le)
      have worthItEarlier := fun attempt first (le : attempt ≤ made) =>
        worthIt attempt first (Nat.le_succ_of_le le)
      rcases ih (Nat.lt_of_succ_lt below) judgedEarlier worthItEarlier with
        ⟨number, session, isTrying, isNumber, tried⟩
      have allowed : number < strategy.maxAttempts := by
        rwa [UInt32.lt_iff_toNat_lt, isNumber]
      have thisJudged : (setbacks number.toNat).IsJudged := by
        rw [isNumber]
        exact judged _ (Nat.succ_pos made) (Nat.le_refl _)
      have thisWorthIt : (setbacks number.toNat).IsWorthRetrying := by
        rw [isNumber]
        exact worthIt _ (Nat.succ_pos made) (Nat.le_refl _)
      rcases advance_of_lt_maxAttempts tried thisJudged thisWorthIt allowed with
        ⟨next, triedNext, isNext⟩
      refine ⟨number + 1, next, ?_, ?_, triedNext⟩
      · rw [after_succ, isTrying, isNext]
      · rw [(nextNumber?_of_lt allowed).2, isNumber]

/-- How the work ends: at an attempt `last`, after the attempts of all earlier numbers,
and for good. -/
structure EndsAt (strategy : Strategy) (setbacks : Nat → Setback) (last : Nat)
    (decision : Decision) (final : Session) : Prop where
  first_le : 1 ≤ last
  le_max : last ≤ strategy.maxAttempts.toNat
  goes_on : ∀ made, made < last → ∃ number session,
    after strategy setbacks made = trying number session ∧ number.toNat = made + 1
  stops : ∀ made, last ≤ made → ∃ number,
    after strategy setbacks made = ended number decision final ∧ number.toNat = last
  givesUp : decision.shouldRetry = false
  retries : final.metrics.retries.count.toInt = last - 1

/-- An attempt that ends the work after earlier ones were worth another attempt. -/
theorem endsAt_of_advance {made : Nat} {decision : Decision}
    (below : made < strategy.maxAttempts.toNat) (givesUp : decision.shouldRetry = false)
    (judged : ∀ attempt, 1 ≤ attempt → attempt ≤ made → (setbacks attempt).IsJudged)
    (worthIt : ∀ attempt, 1 ≤ attempt → attempt ≤ made → (setbacks attempt).IsWorthRetrying)
    (ends : ∀ number session, number.toNat = made + 1 → HasTried made session →
      ∃ final, HasTried made final ∧
        advance strategy setbacks (trying number session) = ended number decision final) :
    ∃ final, EndsAt strategy setbacks (made + 1) decision final := by
  rcases after_eq_trying below judged worthIt with ⟨number, session, isTrying, isNumber, tried⟩
  rcases ends number session isNumber tried with ⟨final, triedFinal, isEnd⟩
  rw [← isTrying, ← after_succ] at isEnd
  refine ⟨final, Nat.succ_pos made, below, ?_, ?_, givesUp, ?_⟩
  · intro earlier before
    have le : earlier ≤ made := Nat.le_of_lt_succ before
    rcases after_eq_trying (Nat.lt_of_le_of_lt le below)
        (fun attempt first small => judged attempt first (Nat.le_trans small le))
        (fun attempt first small => worthIt attempt first (Nat.le_trans small le)) with
      ⟨number, session, isTrying, isNumber, -⟩
    exact ⟨number, session, isTrying, isNumber⟩
  · intro later after
    exact ⟨number, after_of_ended isEnd after, isNumber⟩
  · have small := strategy.maxAttempts.toNat_lt
    rw [triedFinal.count_retries (by omega)]
    omega

/-- The work ends at its first hopeless failure. -/
theorem endsAt_of_not_isWorthRetrying {made : Nat} (below : made < strategy.maxAttempts.toNat)
    (judged : ∀ attempt, 1 ≤ attempt → attempt ≤ strategy.maxAttempts.toNat →
      (setbacks attempt).IsJudged)
    (worthIt : ∀ attempt, 1 ≤ attempt → attempt ≤ made → (setbacks attempt).IsWorthRetrying)
    (hopeless : ¬ (setbacks (made + 1)).IsWorthRetrying) :
    ∃ final, EndsAt strategy setbacks (made + 1) (.giveUp .notRetryable) final := by
  apply endsAt_of_advance below rfl
    (fun attempt first le => judged attempt first (by omega)) worthIt
  intro number session isNumber tried
  rw [← isNumber] at hopeless
  refine advance_of_not_isWorthRetrying tried ?_ hopeless
  rw [isNumber]
  exact judged _ (Nat.succ_pos made) below

/-- The work ends at the maximum when every failure is worth another attempt. -/
theorem endsAt_maxAttempts {made : Nat} (isMax : made + 1 = strategy.maxAttempts.toNat)
    (judged : ∀ attempt, 1 ≤ attempt → attempt ≤ strategy.maxAttempts.toNat →
      (setbacks attempt).IsJudged)
    (worthIt : ∀ attempt, 1 ≤ attempt → attempt ≤ strategy.maxAttempts.toNat →
      (setbacks attempt).IsWorthRetrying) :
    ∃ final, EndsAt strategy setbacks (made + 1) (.giveUp .attemptsExhausted) final := by
  apply endsAt_of_advance (Nat.lt_of_succ_le (Nat.le_of_eq isMax)) rfl
    (fun attempt first le => judged attempt first (by omega))
    (fun attempt first le => worthIt attempt first (by omega))
  intro number session isNumber tried
  apply advance_of_maxAttempts_le tried
  · rw [isNumber]
    exact judged _ (Nat.succ_pos made) (Nat.le_of_eq isMax)
  · rw [isNumber]
    exact worthIt _ (Nat.succ_pos made) (Nat.le_of_eq isMax)
  · rw [UInt32.le_iff_toNat_le, isNumber, isMax]

/-- Work of at least one allowed attempt ends, whatever its attempts meet: after at most
the allowed number of attempts, with numbers counted up one by one, with a decision to
give up, and with every attempt but the last counted as a retry.  When every failure
is worth another attempt, all allowed attempts are made; otherwise the work ends with
the first one that is not. -/
theorem work_ends_within_limit (strategy : Strategy) (setbacks : Nat → Setback)
    (some_allowed : 1 ≤ strategy.maxAttempts)
    (judged : ∀ attempt, 1 ≤ attempt → attempt ≤ strategy.maxAttempts.toNat →
      (setbacks attempt).IsJudged) :
    ∃ last decision final, EndsAt strategy setbacks last decision final ∧
      ((∀ attempt, 1 ≤ attempt → attempt ≤ strategy.maxAttempts.toNat →
          (setbacks attempt).IsWorthRetrying) →
        last = strategy.maxAttempts.toNat ∧ decision = .giveUp .attemptsExhausted ∧
          final.metrics.retries.count.toInt = strategy.maxAttempts.toNat - 1) ∧
      (∀ attempt, 1 ≤ attempt → attempt ≤ strategy.maxAttempts.toNat →
        ¬ (setbacks attempt).IsWorthRetrying →
          last ≤ attempt ∧ ¬ (setbacks last).IsWorthRetrying ∧
            decision = .giveUp .notRetryable) := by
  rw [UInt32.le_iff_toNat_le] at some_allowed
  change 1 ≤ strategy.maxAttempts.toNat at some_allowed
  by_cases some_hopeless : ∃ made, made < strategy.maxAttempts.toNat ∧
      ¬ (setbacks (made + 1)).IsWorthRetrying
  · -- The first hopeless failure decides.
    let made := Nat.find some_hopeless
    rcases Nat.find_spec some_hopeless with ⟨below, hopeless⟩
    have worthIt : ∀ attempt, 1 ≤ attempt → attempt ≤ made →
        (setbacks attempt).IsWorthRetrying := by
      intro attempt first le
      by_contra hopelessBefore
      have before : attempt - 1 < made := by omega
      apply Nat.find_min some_hopeless before
      rw [Nat.sub_add_cancel first]
      exact ⟨by omega, hopelessBefore⟩
    rcases endsAt_of_not_isWorthRetrying below judged worthIt hopeless with ⟨final, ends⟩
    refine ⟨made + 1, _, final, ends, ?_, ?_⟩
    · intro all
      exact absurd (all _ (Nat.succ_pos made) below) hopeless
    · intro attempt first le hopelessHere
      refine ⟨?_, hopeless, rfl⟩
      by_contra before
      exact hopelessHere (worthIt attempt first (by omega))
  · have worthIt : ∀ attempt, 1 ≤ attempt → attempt ≤ strategy.maxAttempts.toNat →
        (setbacks attempt).IsWorthRetrying := by
      intro attempt first le
      by_contra hopeless
      apply some_hopeless
      refine ⟨attempt - 1, by omega, ?_⟩
      rwa [Nat.sub_add_cancel first]
    have isMax := Nat.sub_add_cancel some_allowed
    rcases endsAt_maxAttempts isMax judged worthIt with ⟨final, ends⟩
    rw [isMax] at ends
    refine ⟨_, _, final, ends, ?_, ?_⟩
    · intro _
      exact ⟨rfl, rfl, ends.retries⟩
    · intro attempt first le hopeless
      exact absurd (worthIt attempt first le) hopeless

/-- A service whose clock is an hour behind at first, and that is busy from then on. -/
def busyService : Nat → Setback
  | 1 => ⟨ServiceFailure.ofAnswer "" 403 (some "Sat, 09 Mar 2024 15:20:00 GMT"),
      (Instant.ofParts? 19791 58800 0).get rfl⟩
  | _ => ⟨ServiceFailure.ofAnswer "SlowDown" 503 none, (Instant.ofParts? 19791 62460 0).get rfl⟩

theorem work_ends_within_limit_busyService :
    1 ≤ Strategy.standard.maxAttempts ∧
      (∀ attempt, 1 ≤ attempt → attempt ≤ Strategy.standard.maxAttempts.toNat →
        (busyService attempt).IsJudged) ∧
      ∃ final,
        EndsAt Strategy.standard busyService 3 (.giveUp .attemptsExhausted) final ∧
        final.metrics.retries.count.toInt = 2 := by
  have judged : ∀ attempt, (busyService attempt).IsJudged := by
    intro attempt
    unfold busyService
    split <;> decide +kernel
  have worthIt : ∀ attempt, (busyService attempt).IsWorthRetrying := by
    intro attempt
    unfold busyService
    split <;> decide +kernel
  rcases work_ends_within_limit Strategy.standard busyService (by decide)
      (fun attempt _ _ => judged attempt) with ⟨last, decision, final, ends, exhausts, -⟩
  rcases exhausts fun attempt _ _ => worthIt attempt with ⟨rfl, rfl, retries⟩
  exact ⟨by decide, fun attempt _ _ => judged attempt, final, ends, retries⟩

end Work

end Triage.Retry

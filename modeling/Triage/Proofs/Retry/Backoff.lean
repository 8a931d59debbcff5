import Triage.Proofs.Retry.WordArithmetic

/-!
# Backoff without jitter

Delays are computed in words of 64 bits, and the product of a base and its growth may leave
the word.  It stops at the largest word, which no maximum exceeds, so the capped delay is
the smaller of the exact product and the maximum.  Without jitter this is the delay itself,
as long as it fits in a signed word: it grows with the attempts up to the maximum, and the
doubled base of throttled calls gives at most twice the delay.
-/

namespace Triage.Retry

namespace Delay

variable {delay : Delay} {milliseconds : Nat}

theorem milliseconds_of_isWhole (isWhole : delay.nanoseconds = milliseconds * 1000000) :
    delay.milliseconds = milliseconds := by
  rw [Delay.milliseconds, isWhole, Nat.mul_div_cancel _ (by decide)]

/-- The word keeps the low bits of whole milliseconds. -/
theorem toNat_millisecondsWord_eq_mod (isWhole : delay.nanoseconds = milliseconds * 1000000) :
    delay.millisecondsWord.toNat = milliseconds % 2 ^ 64 := by
  rw [millisecondsWord, milliseconds_of_isWhole isWhole]
  exact UInt64.toNat_ofNat'

theorem le_iff {first second : Delay} :
    first ≤ second ↔ first.nanoseconds ≤ second.nanoseconds := Iff.rfl

@[simp]
theorem nanoseconds_shorter (first second : Delay) :
    (first.shorter second).nanoseconds = min first.nanoseconds second.nanoseconds := by
  unfold shorter
  split
  · exact (Nat.min_eq_left ‹_›).symm
  · exact (Nat.min_eq_right (Nat.le_of_not_le ‹_›)).symm

theorem nanoseconds_doubled (isWhole : delay.nanoseconds = milliseconds * 1000000)
    (fits : milliseconds < 2 ^ 63) :
    delay.doubled.nanoseconds = 2 * milliseconds * 1000000 := by
  simp only [doubled, isWhole, limit]
  omega

end Delay

/-! ## Capped delays -/

/-- The milliseconds of an attempt before its jitter, in numbers without a limit; attempt
zero counts as the first. -/
def exactMilliseconds (base maximum attempt : Nat) : Nat :=
  min (base * 2 ^ min (attempt - 1) 31) maximum

theorem exactMilliseconds_le (base maximum attempt : Nat) :
    exactMilliseconds base maximum attempt ≤ maximum := Nat.min_le_right _ _

/-- Later attempts wait at least as long. -/
theorem exactMilliseconds_mono (base maximum : Nat) {earlier later : Nat}
    (le : earlier ≤ later) :
    exactMilliseconds base maximum earlier ≤ exactMilliseconds base maximum later := by
  have growth_le : 2 ^ min (earlier - 1) 31 ≤ 2 ^ min (later - 1) 31 :=
    Nat.pow_le_pow_right (by decide) (by omega)
  have product_le := Nat.mul_le_mul_left base growth_le
  unfold exactMilliseconds
  omega

/-- A doubled base gives at least the same delay and at most twice of it. -/
theorem exactMilliseconds_double (base maximum attempt : Nat) :
    exactMilliseconds base maximum attempt ≤ exactMilliseconds (2 * base) maximum attempt ∧
      exactMilliseconds (2 * base) maximum attempt ≤
        2 * exactMilliseconds base maximum attempt := by
  unfold exactMilliseconds
  rw [Nat.mul_assoc]
  omega

variable {base maximum : Nat} {baseDelay maxDelay : Delay}

/-- The largest word stops no product below the maximum, of which only the low bits count. -/
theorem cappedMilliseconds_eq_mod (isBase : baseDelay.nanoseconds = base * 1000000)
    (isMaximum : maxDelay.nanoseconds = maximum * 1000000) (attempt : Nat) :
    cappedMilliseconds baseDelay maxDelay attempt =
      exactMilliseconds (base % 2 ^ 64) (maximum % 2 ^ 64) attempt := by
  have maximum_lt : maximum % 2 ^ 64 < 2 ^ 64 := Nat.mod_lt _ (by decide)
  have inWord : min maxWord (maximum % 2 ^ 64) = maximum % 2 ^ 64 :=
    Nat.min_eq_right (Nat.le_of_lt_succ maximum_lt)
  rw [cappedMilliseconds, Delay.toNat_millisecondsWord_eq_mod isBase,
    Delay.toNat_millisecondsWord_eq_mod isMaximum, Nat.min_assoc, inWord]
  rfl

/-- Milliseconds of 64 bits are capped exactly. -/
theorem cappedMilliseconds_eq (isBase : baseDelay.nanoseconds = base * 1000000)
    (base_lt : base < 2 ^ 64) (isMaximum : maxDelay.nanoseconds = maximum * 1000000)
    (maximum_lt : maximum < 2 ^ 64) (attempt : Nat) :
    cappedMilliseconds baseDelay maxDelay attempt = exactMilliseconds base maximum attempt := by
  rw [cappedMilliseconds_eq_mod isBase isMaximum, Nat.mod_eq_of_lt base_lt,
    Nat.mod_eq_of_lt maximum_lt]

/-! ## Signed words -/

/-- What a signed word keeps of milliseconds; those that turn negative count as none. -/
def keptMilliseconds (milliseconds : Nat) : Nat :=
  if milliseconds < 2 ^ 63 then milliseconds else 0

theorem keptMilliseconds_of_lt {milliseconds : Nat} (lt : milliseconds < 2 ^ 63) :
    keptMilliseconds milliseconds = milliseconds := if_pos lt

theorem keptMilliseconds_of_le {milliseconds : Nat} (le : 2 ^ 63 ≤ milliseconds) :
    keptMilliseconds milliseconds = 0 := if_neg (Nat.not_lt.mpr le)

theorem toNat_bmod_eq_keptMilliseconds {milliseconds : Nat} (inWord : milliseconds < 2 ^ 64) :
    (Int.bmod milliseconds (maxWord + 1)).toNat = keptMilliseconds milliseconds := by
  rcases Nat.lt_or_ge milliseconds (2 ^ 63) with lt | le
  · rw [keptMilliseconds_of_lt lt, bmod_maxWord_of_lt lt, Int.toNat_natCast]
  · rw [keptMilliseconds_of_le le, bmod_maxWord_of_le (by omega) (by omega)]
    omega

/-! ## Delays without jitter -/

namespace Strategy

variable {strategy : Strategy}

@[simp]
theorem backoff_zero (strategy : Strategy) (baseDelay : Delay) :
    strategy.backoff baseDelay 0 = baseDelay.shorter strategy.maxDelay := if_pos rfl

/-- Without jitter an attempt waits for what words keep of its capped delay. -/
theorem backoff_of_no_jitter_eq_kept (steady : strategy.jitterPercent = 0) (baseDelay : Delay)
    {attempt : UInt32} (counted : attempt ≠ 0) :
    (strategy.backoff baseDelay attempt).nanoseconds =
      keptMilliseconds (cappedMilliseconds baseDelay strategy.maxDelay attempt.toNat) *
        1000000 := by
  have capped_lt : cappedMilliseconds baseDelay strategy.maxDelay attempt.toNat < 2 ^ 64 :=
    (Nat.min_le_right _ _).trans_lt (UInt64.toNat_lt _)
  have unmoved : jitter (cappedMilliseconds baseDelay strategy.maxDelay attempt.toNat)
      strategy.jitterPercent.toNat attempt.toNat = 0 := by
    rw [steady]
    exact jitter_zero _ _
  have moved : strategy.movedMilliseconds baseDelay attempt =
      Int.bmod (cappedMilliseconds baseDelay strategy.maxDelay attempt.toNat) (maxWord + 1) :=
    (congrArg (Int.bmod _ _ + ·) unmoved).trans (Int.add_zero _)
  rw [backoff_nanoseconds_eq_bmod strategy baseDelay counted, moved, Int.bmod_bmod,
    toNat_bmod_eq_keptMilliseconds capped_lt]

/-- Without jitter the delay of every attempt is the exact one. -/
theorem backoff_of_no_jitter (steady : strategy.jitterPercent = 0)
    (isBase : baseDelay.nanoseconds = base * 1000000) (base_lt : base < 2 ^ 64)
    (isMaximum : strategy.maxDelay.nanoseconds = maximum * 1000000) (maximum_lt : maximum < 2 ^ 63)
    (attempt : UInt32) :
    (strategy.backoff baseDelay attempt).nanoseconds =
      exactMilliseconds base maximum attempt.toNat * 1000000 := by
  by_cases counted : attempt = 0
  · subst counted
    rw [backoff_zero, Delay.nanoseconds_shorter, isBase, isMaximum]
    simp [exactMilliseconds, Nat.mul_min_mul_right]
  · have capped_lt := (exactMilliseconds_le base maximum attempt.toNat).trans_lt maximum_lt
    rw [backoff_of_no_jitter_eq_kept steady baseDelay counted,
      cappedMilliseconds_eq isBase base_lt isMaximum (by omega), keptMilliseconds_of_lt capped_lt]

/-- Without jitter and with whole milliseconds, an attempt waits for the exact product of
the base and its power of two, or for the maximum.  Later attempts wait at least as long,
no attempt waits longer than the maximum, and a strategy that is made from its base waits
at most twice as long for a throttled call. -/
theorem delays_double_up_to_maximum {strategy : Strategy} {base maximum : Nat}
    (steady : strategy.jitterPercent = 0)
    (isBase : strategy.baseDelay.nanoseconds = base * 1000000) (base_lt : base < 2 ^ 63)
    (isMaximum : strategy.maxDelay.nanoseconds = maximum * 1000000)
    (maximum_lt : maximum < 2 ^ 63) :
    (∀ attempt : UInt32, (strategy.delay attempt).nanoseconds =
      min (base * 2 ^ min (max attempt.toNat 1 - 1) 31) maximum * 1000000) ∧
    (∀ earlier later : UInt32, earlier ≤ later → strategy.delay earlier ≤ strategy.delay later) ∧
    (∀ attempt : UInt32, strategy.delay attempt ≤ strategy.maxDelay) ∧
    (∀ baseDelay maxDelay maxAttempts percent,
      strategy = ofBase baseDelay maxDelay maxAttempts percent → ∀ attempt : UInt32,
        strategy.delay attempt ≤ strategy.delayFor attempt .throttling ∧
        (strategy.delayFor attempt .throttling).nanoseconds ≤
          2 * (strategy.delay attempt).nanoseconds) := by
  have delay_eq (attempt : UInt32) : (strategy.delay attempt).nanoseconds =
      exactMilliseconds base maximum attempt.toNat * 1000000 :=
    backoff_of_no_jitter steady isBase (by omega) isMaximum maximum_lt attempt
  refine ⟨fun attempt => ?_, fun earlier later le => ?_, fun attempt => ?_, ?_⟩
  · have predecessor : max attempt.toNat 1 - 1 = attempt.toNat - 1 := by omega
    rw [delay_eq, predecessor]
    rfl
  · rw [Delay.le_iff, delay_eq, delay_eq]
    exact Nat.mul_le_mul_right _ (exactMilliseconds_mono base maximum le)
  · rw [Delay.le_iff, delay_eq, isMaximum]
    exact Nat.mul_le_mul_right _ (exactMilliseconds_le base maximum attempt.toNat)
  · intro baseDelay maxDelay maxAttempts percent isOfBase attempt
    have isDoubled : strategy.throttlingBaseDelay.nanoseconds = 2 * base * 1000000 := by
      rw [isOfBase] at isBase ⊢
      exact Delay.nanoseconds_doubled isBase base_lt
    have throttled_eq : (strategy.delayFor attempt .throttling).nanoseconds =
        exactMilliseconds (2 * base) maximum attempt.toNat * 1000000 :=
      backoff_of_no_jitter steady isDoubled (by omega) isMaximum maximum_lt attempt
    have bounds := exactMilliseconds_double base maximum attempt.toNat
    rw [Delay.le_iff, delay_eq, throttled_eq]
    omega

/-- A strategy whose third attempt leaves the word. -/
def patient : Strategy :=
  ofBase (Delay.ofMilliseconds 4611686018427387904) (Delay.ofMilliseconds 9223372036854775807) 5 0

theorem delays_double_up_to_maximum_patient :
    (patient.delay 4294967295).nanoseconds = 9223372036854775807 * 1000000 ∧
      patient.delay 2 ≤ patient.delay 3 ∧
      (patient.delayFor 1 .throttling).nanoseconds ≤ 2 * (patient.delay 1).nanoseconds := by
  obtain ⟨isExact, grows, -, throttled⟩ :=
    @delays_double_up_to_maximum patient 4611686018427387904 9223372036854775807
      rfl rfl (by decide) rfl (by decide)
  exact ⟨isExact 4294967295, grows 2 3 (by decide), (throttled _ _ _ _ rfl 1).2⟩

end Strategy

end Triage.Retry

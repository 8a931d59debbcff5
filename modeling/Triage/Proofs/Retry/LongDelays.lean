import Triage.Proofs.Retry.Backoff

/-!
# Delays beyond a word

Delays reach further than words of 64 bits.  Of a long base and of a long maximum only the
low bits of their milliseconds count, and a capped delay of `2^63` milliseconds and more
turns negative in the signed word to which the jitter is added, which leaves no delay at all.
So without jitter no delay exceeds its maximum, whatever the sizes, but delays rise from the
base only while the words suffice.
-/

namespace Triage.Retry

variable {base maximum milliseconds attempt : Nat}

/-! ## Milliseconds in words -/

theorem keptMilliseconds_le (milliseconds : Nat) :
    keptMilliseconds milliseconds ≤ milliseconds := by
  unfold keptMilliseconds
  split
  · exact Nat.le_refl milliseconds
  · exact Nat.zero_le milliseconds

/-- Something is kept only of milliseconds that fit. -/
theorem lt_of_keptMilliseconds_pos (pos : 0 < keptMilliseconds milliseconds) :
    milliseconds < 2 ^ 63 := by
  by_contra notLt
  rw [keptMilliseconds_of_le (Nat.not_lt.mp notLt)] at pos
  contradiction

/-- Every attempt waits for a base below the maximum. -/
theorem le_exactMilliseconds (le : base ≤ maximum) (attempt : Nat) :
    base ≤ exactMilliseconds base maximum attempt := by
  have growth_pos : 0 < 2 ^ min (attempt - 1) 31 := Nat.two_pow_pos _
  exact Nat.le_min.mpr ⟨Nat.le_mul_of_pos_right base growth_pos, le⟩

/-- The milliseconds of an attempt without jitter, as words compute them. -/
def wordMilliseconds (base maximum attempt : Nat) : Nat :=
  keptMilliseconds (exactMilliseconds (base % 2 ^ 64) (maximum % 2 ^ 64) attempt)

theorem wordMilliseconds_le (base maximum attempt : Nat) :
    wordMilliseconds base maximum attempt ≤ maximum :=
  calc wordMilliseconds base maximum attempt
      ≤ exactMilliseconds (base % 2 ^ 64) (maximum % 2 ^ 64) attempt := keptMilliseconds_le _
    _ ≤ maximum % 2 ^ 64 := exactMilliseconds_le _ _ _
    _ ≤ maximum := Nat.mod_le _ _

/-! ## Words that suffice -/

/-- There is nothing to wait for, or the base stays below the low bits of the maximum and
the capped delay of the attempt fits in a signed word. -/
def WordsSuffice (base maximum attempt : Nat) : Prop :=
  base = 0 ∨ base ≤ maximum % 2 ^ 64 ∧
    min (base * 2 ^ min (attempt - 1) 31) (maximum % 2 ^ 64) < 2 ^ 63

instance (base maximum attempt : Nat) : Decidable (WordsSuffice base maximum attempt) :=
  inferInstanceAs (Decidable (_ ∨ _))

/-- The words of an attempt suffice for the earlier ones. -/
theorem WordsSuffice.of_le {earlier later : Nat} (le : earlier ≤ later)
    (suffice : WordsSuffice base maximum later) : WordsSuffice base maximum earlier := by
  rcases suffice with nothing | ⟨base_le, capped_lt⟩
  · exact .inl nothing
  · exact .inr ⟨base_le, (exactMilliseconds_mono base (maximum % 2 ^ 64) le).trans_lt capped_lt⟩

/-- Words that suffice compute the exact delay under the low bits of the maximum. -/
theorem wordMilliseconds_eq (suffice : WordsSuffice base maximum attempt) :
    wordMilliseconds base maximum attempt =
      exactMilliseconds base (maximum % 2 ^ 64) attempt := by
  rcases suffice with rfl | ⟨base_le, capped_lt⟩
  · have zero_lt : exactMilliseconds 0 (maximum % 2 ^ 64) attempt < 2 ^ 63 := by
      simp [exactMilliseconds]
    exact keptMilliseconds_of_lt zero_lt
  · have base_lt : base < 2 ^ 64 := base_le.trans_lt (Nat.mod_lt _ (by decide))
    rw [wordMilliseconds, Nat.mod_eq_of_lt base_lt]
    exact keptMilliseconds_of_lt capped_lt

/-- An attempt waits for the base at least exactly when its words suffice. -/
theorem le_wordMilliseconds_iff :
    base ≤ wordMilliseconds base maximum attempt ↔ WordsSuffice base maximum attempt := by
  constructor
  · intro base_le
    rcases Nat.eq_zero_or_pos base with nothing | positive
    · exact .inl nothing
    · have capped_lt := lt_of_keptMilliseconds_pos (positive.trans_le base_le)
      rw [wordMilliseconds, keptMilliseconds_of_lt capped_lt] at base_le
      have base_le_word := base_le.trans (exactMilliseconds_le _ _ _)
      have base_lt : base < 2 ^ 64 := base_le_word.trans_lt (Nat.mod_lt _ (by decide))
      rw [Nat.mod_eq_of_lt base_lt] at capped_lt
      exact .inr ⟨base_le_word, capped_lt⟩
  · intro suffice
    rw [wordMilliseconds_eq suffice]
    rcases suffice with rfl | ⟨base_le, -⟩
    · exact Nat.zero_le _
    · exact le_exactMilliseconds base_le attempt

/-- The words of a maximum below `2^63` milliseconds always suffice. -/
theorem wordsSuffice_of_maximum_lt (base_le : base ≤ maximum) (maximum_lt : maximum < 2 ^ 63)
    (attempt : Nat) : WordsSuffice base maximum attempt := by
  have same : maximum % 2 ^ 64 = maximum := Nat.mod_eq_of_lt (maximum_lt.trans (by decide))
  rw [WordsSuffice, same]
  exact .inr ⟨base_le, (Nat.min_le_right _ _).trans_lt maximum_lt⟩

/-! ## Rising delays -/

namespace Strategy

variable {strategy : Strategy}

/-- An attempt waits for the base at least, the next one waits as long or longer, and not
longer than the maximum. -/
structure RisesToMaximum (strategy : Strategy) (attempt : UInt32) : Prop where
  base_le : strategy.baseDelay ≤ strategy.delay attempt
  le_next : strategy.delay attempt ≤ strategy.delay (attempt + 1)
  next_le : strategy.delay (attempt + 1) ≤ strategy.maxDelay

section WithoutJitter

variable (steady : strategy.jitterPercent = 0)
  (isBase : strategy.baseDelay.nanoseconds = base * 1000000)
  (isMaximum : strategy.maxDelay.nanoseconds = maximum * 1000000)
include steady isBase isMaximum

/-- Words compute the delay, whatever the size of the durations. -/
theorem delay_of_no_jitter_eq_word {attempt : UInt32} (counted : attempt ≠ 0) :
    (strategy.delay attempt).nanoseconds =
      wordMilliseconds base maximum attempt.toNat * 1000000 := by
  rw [delay, backoff_of_no_jitter_eq_kept steady _ counted,
    cappedMilliseconds_eq_mod isBase isMaximum]
  rfl

/-- No delay exceeds its maximum, however long that is. -/
theorem delay_le_maxDelay_of_no_jitter {attempt : UInt32} (counted : attempt ≠ 0) :
    strategy.delay attempt ≤ strategy.maxDelay := by
  rw [Delay.le_iff, delay_of_no_jitter_eq_word steady isBase isMaximum counted, isMaximum]
  exact Nat.mul_le_mul_right _ (wordMilliseconds_le _ _ _)

theorem baseDelay_le_delay_iff {attempt : UInt32} (counted : attempt ≠ 0) :
    strategy.baseDelay ≤ strategy.delay attempt ↔ WordsSuffice base maximum attempt.toNat := by
  rw [Delay.le_iff, delay_of_no_jitter_eq_word steady isBase isMaximum counted, isBase,
    Nat.mul_le_mul_right_iff (by decide)]
  exact le_wordMilliseconds_iff

/-- A later attempt whose words suffice waits at least as long. -/
theorem delay_le_of_wordsSuffice {earlier later : UInt32} (counted : earlier ≠ 0)
    (le : earlier ≤ later) (suffice : WordsSuffice base maximum later.toNat) :
    strategy.delay earlier ≤ strategy.delay later := by
  have laterCounted : later ≠ 0 := by
    rintro rfl
    exact counted (UInt32.le_zero_iff.mp le)
  have toNat_le : earlier.toNat ≤ later.toNat := UInt32.le_iff_toNat_le.mp le
  rw [Delay.le_iff, delay_of_no_jitter_eq_word steady isBase isMaximum counted,
    delay_of_no_jitter_eq_word steady isBase isMaximum laterCounted,
    wordMilliseconds_eq (suffice.of_le toNat_le), wordMilliseconds_eq suffice]
  exact Nat.mul_le_mul_right _ (exactMilliseconds_mono base (maximum % 2 ^ 64) toNat_le)

end WithoutJitter

/-- Without jitter and with whole milliseconds of any size, no delay exceeds the maximum, and
the delays of an attempt and the next rise from the base to the maximum exactly when the words
of the next one suffice.  For a maximum below `2^63` milliseconds they always do. -/
theorem delays_rise_iff_words_suffice {strategy : Strategy} {base maximum : Nat}
    {attempt : UInt32} (steady : strategy.jitterPercent = 0)
    (isBase : strategy.baseDelay.nanoseconds = base * 1000000)
    (isMaximum : strategy.maxDelay.nanoseconds = maximum * 1000000)
    (base_le : strategy.baseDelay ≤ strategy.maxDelay) (counted : attempt ≠ 0)
    (notLast : attempt.toNat < 2 ^ 32 - 1) :
    strategy.delay attempt ≤ strategy.maxDelay ∧
    strategy.delay (attempt + 1) ≤ strategy.maxDelay ∧
    (strategy.RisesToMaximum attempt ↔ WordsSuffice base maximum (attempt.toNat + 1)) ∧
    (maximum < 2 ^ 63 → strategy.RisesToMaximum attempt) := by
  have next : (attempt + 1).toNat = attempt.toNat + 1 := by
    rw [UInt32.toNat_add]
    exact Nat.mod_eq_of_lt (Nat.add_lt_of_lt_sub notLast)
  have le_next : attempt ≤ attempt + 1 := by
    rw [UInt32.le_iff_toNat_le, next]
    exact Nat.le_add_right _ 1
  have nextCounted : attempt + 1 ≠ 0 := by
    intro isZero
    rw [isZero] at next
    contradiction
  have now_le := delay_le_maxDelay_of_no_jitter steady isBase isMaximum counted
  have next_le := delay_le_maxDelay_of_no_jitter steady isBase isMaximum nextCounted
  have rises_iff : strategy.RisesToMaximum attempt ↔
      WordsSuffice base maximum (attempt.toNat + 1) := by
    rw [← next]
    constructor
    · rintro ⟨base_le_now, now_le_next, -⟩
      have base_le_next := Nat.le_trans base_le_now now_le_next
      exact (baseDelay_le_delay_iff steady isBase isMaximum nextCounted).mp base_le_next
    · intro suffice
      exact {
        base_le := (baseDelay_le_delay_iff steady isBase isMaximum counted).mpr
          (suffice.of_le le_next)
        le_next := delay_le_of_wordsSuffice steady isBase isMaximum counted le_next suffice
        next_le := next_le }
  refine ⟨now_le, next_le, rises_iff, ?_⟩
  intro maximum_lt
  rw [Delay.le_iff, isBase, isMaximum] at base_le
  have milliseconds_le := Nat.le_of_mul_le_mul_right base_le (by decide)
  exact rises_iff.mpr (wordsSuffice_of_maximum_lt milliseconds_le maximum_lt _)

/-- A strategy with the longest maximum of whole seconds. -/
def boundless : Strategy :=
  ofBase (Delay.ofMilliseconds 100)
    ((Delay.ofNanoseconds? (18446744073709551615 * 1000000000)).get rfl) 5 0

/-- Its maximum leaves the word, but the low bits of it are enough for the last growth. -/
theorem delays_rise_iff_words_suffice_boundless :
    boundless.maxDelay.nanoseconds = 18446744073709551615000 * 1000000 ∧
      boundless.RisesToMaximum 31 ∧ boundless.delay 32 ≤ boundless.maxDelay := by
  have isMaximum : boundless.maxDelay.nanoseconds = 18446744073709551615000 * 1000000 := rfl
  obtain ⟨-, next_le, rises_iff, -⟩ :=
    @delays_rise_iff_words_suffice boundless 100 18446744073709551615000 31 rfl rfl isMaximum
      (by decide) (by decide) (by decide)
  exact ⟨isMaximum, rises_iff.mpr (by decide), next_le⟩

/-- The low bits of a maximum of `2^64` milliseconds are zero, so nothing is left to wait for. -/
example : (ofBase (Delay.ofMilliseconds 100)
    ((Delay.ofNanoseconds? (18446744073709551616 * 1000000)).get rfl) 5 0).delay 1 = Delay.zero := by
  decide +kernel

/-- A strategy that is to wait for `2^63` milliseconds before every attempt. -/
def unhurried : Strategy where
  baseDelay := Delay.ofMilliseconds 9223372036854775808
  throttlingBaseDelay := Delay.ofMilliseconds 9223372036854775808
  maxDelay := Delay.ofMilliseconds 9223372036854775808
  maxAttempts := 5
  jitterPercent := 0

/-- It does not wait at all. -/
theorem unhurried_does_not_wait :
    unhurried.jitterPercent = 0 ∧
      unhurried.baseDelay.nanoseconds = 9223372036854775808 * 1000000 ∧
      unhurried.maxDelay.nanoseconds = 9223372036854775808 * 1000000 ∧
      unhurried.baseDelay ≤ unhurried.maxDelay ∧
      unhurried.delay 1 = Delay.zero ∧
      ¬ unhurried.baseDelay ≤ unhurried.delay 1 := by
  decide +kernel

end Strategy

end Triage.Retry

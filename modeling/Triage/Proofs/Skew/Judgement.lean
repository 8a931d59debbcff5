import Triage.Skew.Policy

/-!
# The judgement of a clock

A failure is put down to a wrong clock exactly when its code says so, or when there
is a suspicion, the service's time is known and the estimate of it is off by the
threshold or more.  It is cleared of it exactly when one of these is missing, and it
is not judged exactly when all that is missing is an estimate in the calendar.
-/

namespace Triage.Skew

open Triage.Time

/-- The threshold counts: clocks are skewed from it on. -/
theorem isClockSkewed_iff {client server : Instant} {threshold : Span} :
    isClockSkewed client server threshold = true ↔
      threshold.nanoseconds ≤ (client.nanosecondsSince server).natAbs := by
  rw [isClockSkewed, decide_eq_true_iff]
  rfl

/-- A larger threshold tolerates more. -/
theorem isClockSkewed_of_threshold_le {client server : Instant} {small large : Span}
    (le : small ≤ large) (skewed : isClockSkewed client server large = true) :
    isClockSkewed client server small = true := by
  rw [isClockSkewed_iff] at skewed ⊢
  exact Int.le_trans le skewed

namespace Policy

variable {policy : Policy} {observation : Observation}

/-- A certain code needs no clock. -/
theorem isSkewed?_of_isDefiniteSkew
    (certain : ErrorCode.isDefiniteSkew observation.code = true) :
    policy.isSkewed? observation = some true := by
  rw [isSkewed?, judge?, if_pos certain]
  rfl

/-- What remains to be judged when the code is not certain. -/
theorem isSkewed?_of_not_isDefiniteSkew
    (uncertain : ErrorCode.isDefiniteSkew observation.code = false) :
    policy.isSkewed? observation =
      if policy.suspects observation then
        match observation.serverTime with
        | none => some false
        | some server =>
            (observation.now.sub? observation.clockOffset).map fun estimate =>
              isClockSkewed estimate server policy.threshold
      else
        some false := by
  unfold isSkewed? judge?
  rw [uncertain, if_neg Bool.false_ne_true]
  split
  · cases observation.serverTime with
    | none => rfl
    | some server =>
        rw [Option.map_map]
        congr 1
        funext estimate
        cases measured : isClockSkewed estimate server policy.threshold <;>
          simp [measured, Verdict.isSkewed]
  · rfl

theorem isSkewed?_eq_some_true_iff :
    policy.isSkewed? observation = some true ↔
      ErrorCode.isDefiniteSkew observation.code = true ∨
        policy.suspects observation = true ∧
          ∃ server estimate, observation.serverTime = some server ∧
            observation.now.sub? observation.clockOffset = some estimate ∧
            isClockSkewed estimate server policy.threshold = true := by
  cases certain : ErrorCode.isDefiniteSkew observation.code with
  | true => simp [isSkewed?_of_isDefiniteSkew certain]
  | false =>
      rw [isSkewed?_of_not_isDefiniteSkew certain]
      cases policy.suspects observation with
      | false => simp
      | true => cases observation.serverTime <;> simp

theorem isSkewed?_eq_some_false_iff :
    policy.isSkewed? observation = some false ↔
      ErrorCode.isDefiniteSkew observation.code = false ∧
        (policy.suspects observation = false ∨ observation.serverTime = none ∨
          ∃ server estimate, observation.serverTime = some server ∧
            observation.now.sub? observation.clockOffset = some estimate ∧
            isClockSkewed estimate server policy.threshold = false) := by
  cases certain : ErrorCode.isDefiniteSkew observation.code with
  | true => simp [isSkewed?_of_isDefiniteSkew certain]
  | false =>
      rw [isSkewed?_of_not_isDefiniteSkew certain]
      cases policy.suspects observation with
      | false => simp
      | true => cases observation.serverTime <;> simp

theorem isSkewed?_eq_none_iff :
    policy.isSkewed? observation = none ↔
      ErrorCode.isDefiniteSkew observation.code = false ∧
        policy.suspects observation = true ∧ observation.serverTime.isSome = true ∧
        observation.now.sub? observation.clockOffset = none := by
  cases certain : ErrorCode.isDefiniteSkew observation.code with
  | true => simp [isSkewed?_of_isDefiniteSkew certain]
  | false =>
      rw [isSkewed?_of_not_isDefiniteSkew certain]
      cases policy.suspects observation with
      | false => simp
      | true => cases observation.serverTime <;> simp

/-- Every policy comes to a judgement when the estimate stays in the calendar. -/
theorem exists_isSkewed? (policy : Policy) (observation : Observation) {estimate : Instant}
    (goneBack : observation.now.sub? observation.clockOffset = some estimate) :
    ∃ skewed, policy.isSkewed? observation = some skewed := by
  rw [← Option.ne_none_iff_exists', ne_eq, isSkewed?_eq_none_iff]
  rintro ⟨-, -, -, lost⟩
  rw [goneBack] at lost
  contradiction

end Policy

end Triage.Skew

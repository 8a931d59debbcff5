import Triage.Proofs.Skew.Judgement
import Triage.ServiceFailure

/-!
# Kinds and flags

The kind of a failure follows from three flags: whether it is put down to a wrong
clock, whether the service asks for fewer requests, and whether another attempt is
allowed.  The last one holds of every failure of the first two sorts, except for a
wrong clock that was measured.
-/

namespace Triage.ServiceFailure

open Triage.Skew Triage.Time

variable {failure : ServiceFailure} {now : Instant}

theorem isRetryable_of_isThrottling (throttled : failure.isThrottling = true) :
    failure.isRetryable = true := by
  simp [isRetryable, throttled]

theorem isRetryable_of_isDefiniteSkew
    (certain : ErrorCode.isDefiniteSkew failure.details.code = true) :
    failure.isRetryable = true := by
  simp [isRetryable, ErrorCode.isRetryable_eq, certain]

/-- The flag and the kind come from the same judgement. -/
theorem kind?_of_isClockSkew? {skewed : Bool} (judged : failure.isClockSkew? now = some skewed) :
    failure.kind? now = some
      (if skewed then .clockSkew
        else if failure.isThrottling then .throttling
        else if failure.isRetryable then .transient
        else .fatal) := by
  obtain ⟨verdict, isVerdict, rfl⟩ := Option.map_eq_some_iff.mp judged
  rw [kind?, isVerdict]
  rfl

/-- A failure that has a kind has had its clock judged. -/
theorem exists_isClockSkew?_of_kind? {kind : FailureKind} (isKind : failure.kind? now = some kind) :
    ∃ skewed, failure.isClockSkew? now = some skewed := by
  obtain ⟨verdict, isVerdict, -⟩ := Option.map_eq_some_iff.mp isKind
  exact ⟨verdict.isSkewed, Option.map_eq_some_iff.mpr ⟨verdict, isVerdict, rfl⟩⟩

/-- A wrong clock without a known time of the service comes from the code alone, and
such a code allows another attempt. -/
theorem isRetryable_of_serverTime?_eq_none (skewed : failure.isClockSkew? now = some true)
    (unknown : failure.serverTime? = none) : failure.isRetryable = true := by
  rcases Policy.isSkewed?_eq_some_true_iff.mp skewed with certain | ⟨-, server, -, known, -⟩
  · exact isRetryable_of_isDefiniteSkew certain
  · have known' : failure.serverTime? = some server := known
    rw [unknown] at known'
    contradiction

theorem isRetryable_of_kind?_eq_clockSkew (isSkew : failure.kind? now = some .clockSkew)
    (unknown : failure.serverTime? = none) : failure.isRetryable = true := by
  obtain ⟨skewed, judged⟩ := exists_isClockSkew?_of_kind? isSkew
  cases skewed with
  | true => exact isRetryable_of_serverTime?_eq_none judged unknown
  | false =>
      rw [kind?_of_isClockSkew? judged] at isSkew
      cases throttled : failure.isThrottling with
      | true => exact isRetryable_of_isThrottling throttled
      | false =>
          cases retryable : failure.isRetryable with
          | true => rfl
          | false => simp [throttled, retryable] at isSkew

/-- A failure of the standard policy that carries a code, a status and perhaps the
text of a `Date` header. -/
def ofAnswer (code : String) (status : UInt16) (date : Option String) : ServiceFailure where
  details := ⟨code, "", "", date.map fun date => ⟨status, [⟨Header.dateName, date⟩]⟩⟩
  status := status
  requestId := none
  extendedRequestId := none
  clockOffset := Span.zero
  policy := Policy.standard

end Triage.ServiceFailure

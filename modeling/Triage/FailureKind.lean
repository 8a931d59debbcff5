/-!
# Kinds of failure
-/

namespace Triage

/-- What a failed call is put down to. -/
inductive FailureKind where
  | clockSkew
  | throttling
  | transient
  | fatal
deriving DecidableEq, Hashable, Repr

namespace FailureKind

/-- The name of the kind. -/
def name : FailureKind → String
  | clockSkew => "clock-skew"
  | throttling => "throttling"
  | transient => "transient"
  | fatal => "fatal"

end FailureKind

end Triage

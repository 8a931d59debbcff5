import Triage.Proofs.CommandLine.Options
import Triage.Proofs.CommandLine.Reports
import Triage.Proofs.Retry.WholeSeconds
import Triage.Proofs.Text.Integer

/-!
# Corrections that are fed back

A report may hand out a correction in whole seconds.  The same arguments with these seconds
for the skew describe the same call of a client that goes back by them, and the report on
this call no longer puts it down to a wrong clock.
-/

namespace Triage.CommandLine

open Triage.Config Triage.Log Triage.Retry Triage.Skew Triage.Text Triage.Time

variable {arguments later : List String} {given : List Given} {failure : Failure}
  {asJson : Bool} {seconds : Int}

/-! ## Other seconds for the skew -/

end Triage.CommandLine

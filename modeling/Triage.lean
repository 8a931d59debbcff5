import Triage.Main
import Triage.Config.Folder
import Triage.Retry.Session
import Triage.Transfer.Collector
import Triage.Transfer.FailedTransfer
import Triage.Proofs.Transfer.Pairing
import Triage.Proofs.Transfer.Equality
import Triage.Proofs.Time.Difference
import Triage.Proofs.Retry.CarriedOffset
import Triage.Proofs.Transfer.Ledger
import Triage.Proofs.Transfer.Recordings
import Triage.Proofs.Transfer.Finishing
import Triage.Proofs.Transfer.Hashing
import Triage.Proofs.Transfer.Workers
import Triage.Proofs.Retry.Persistence
import Triage.Proofs.Retry.WiderPolicy
import Triage.Proofs.Time.HttpDate
import Triage.Proofs.Config.Listing
import Triage.Proofs.Config.Usability
import Triage.Proofs.Number.Nearest
import Triage.Proofs.Retry.WordArithmetic
import Triage.Proofs.Retry.Judgeable
import Triage.Proofs.Config.WrittenIntegers
import Triage.Proofs.Config.Origin
import Triage.Proofs.Config.Agreement
import Triage.Proofs.Text.Lowercase
import Triage.Proofs.Text.Integer
import Triage.Proofs.Config.Variables
import Triage.Proofs.Config.Overriding
import Triage.Proofs.Config.Groups
import Triage.Proofs.Config.Layering
import Triage.Proofs.Config.StatusList
import Triage.Proofs.Retry.WholeSeconds
import Triage.Proofs.CommandLine.Options
import Triage.Proofs.CommandLine.Reports
import Triage.Proofs.CommandLine.Correction
import Triage.Proofs.CommandLine.Comparison
import Triage.Proofs.Retry.Backoff
import Triage.Proofs.Retry.JitterRange
import Triage.Proofs.Config.MaximumDelay
import Triage.Proofs.Response
import Triage.Proofs.Skew.Residual
import Triage.Proofs.Classification
import Triage.Proofs.Time.Normalization
import Triage.Proofs.Skew.Symmetry
import Triage.Proofs.Retry.Tally
import Triage.Proofs.Retry.LongDelays

import Triage.ServiceFailure
import Triage.Path

/-!
# Failed file transfers

A directory is transferred file by file.  A transfer that failed keeps its
request and the error: an answer of the service, a local file error, or a
cancellation.  Only answers of the service may be worth another attempt.
-/

namespace Triage.Transfer

/-- Where files go. -/
inductive Direction where
  | download
  | upload
deriving DecidableEq, Repr

/-- The transfer of one file between the service and a local path: the destination
of a download, the source of an upload. -/
structure FileRequest (direction : Direction) where
  bucket : String
  key : String
  path : Path
deriving BEq, Hashable

/-- Why a file was not transferred. -/
inductive TransferError where
  | service (failure : ServiceFailure)
  | localFile (path : Path) (message : String)
  | cancelled
deriving BEq, Hashable

namespace TransferError

/-- The error in words. -/
def message : TransferError → String
  | service failure => failure.message
  | localFile path message => "local file error on " ++ path.text ++ ": " ++ message
  | cancelled => "transfer cancelled"

/-- The transfer may be tried again. -/
def isRetryable : TransferError → Bool
  | service failure => failure.isRetryable
  | localFile _ _ => false
  | cancelled => false

end TransferError

/-- A file transfer that failed. -/
structure FailedTransfer (direction : Direction) where
  request : FileRequest direction
  error : TransferError
deriving BEq, Hashable

namespace FailedTransfer

variable {direction : Direction}

/-- A failed transfer under construction. -/
structure Draft (direction : Direction) where
  request : Option (FileRequest direction)
  error : Option TransferError

/-- The finished failed transfer; the request is missed first. -/
def Draft.build (draft : Draft direction) : Except MissingField (FailedTransfer direction) :=
  match draft.request, draft.error with
  | some request, some error => .ok ⟨request, error⟩
  | none, _ => .error .request
  | some _, none => .error .error

/-- The parts of a failed transfer. -/
def parts (failed : FailedTransfer direction) : FileRequest direction × TransferError :=
  (failed.request, failed.error)

/-- The failed transfer with these parts. -/
def ofParts (parts : FileRequest direction × TransferError) : FailedTransfer direction :=
  ⟨parts.1, parts.2⟩

end FailedTransfer

end Triage.Transfer

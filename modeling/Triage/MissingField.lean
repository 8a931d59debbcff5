/-!
# Drafts that lack a required part

Responses, failures and failed transfers are drafted part by part.  Turning a
draft into a value fails when a required part was never set.
-/

namespace Triage

/-- The parts that a draft may lack. -/
inductive MissingField where
  | statusCode
  | request
  | error
deriving DecidableEq, Repr

namespace MissingField

/-- The name of the part. -/
def name : MissingField → String
  | statusCode => "status_code"
  | request => "request"
  | error => "error"

/-- The message that reports the missing part. -/
def message (field : MissingField) : String :=
  "missing required field: " ++ field.name

end MissingField

end Triage

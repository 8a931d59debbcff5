/-!
# Well-known error codes

Every lookup is an exact match of the whole code, case included.
-/

namespace Triage.ErrorCode

/-- Codes that report a wrong clock for certain. -/
def definiteSkew : List String :=
  ["RequestTimeTooSkewed", "RequestExpired", "RequestInTheFuture"]

/-- Codes that a wrong clock may cause. -/
def possibleSkew : List String :=
  ["InvalidSignatureException", "SignatureDoesNotMatch", "AuthFailure"]

/-- Codes of a service that asks for fewer requests. -/
def throttling : List String :=
  ["Throttling", "ThrottlingException", "ThrottledException", "RequestThrottledException",
    "TooManyRequestsException", "ProvisionedThroughputExceededException",
    "TransactionInProgressException", "RequestLimitExceeded", "BandwidthLimitExceeded",
    "LimitExceededException", "RequestThrottled", "SlowDown", "EC2ThrottledException",
    "PriorRequestNotComplete"]

/-- Codes of a passing disturbance. -/
def transient : List String :=
  ["RequestTimeout", "RequestTimeoutException", "InternalError", "ServiceUnavailable"]

/-- Codes after which a request may be sent again. -/
def retryable : List String :=
  ["Throttling", "ThrottlingException", "ThrottledException", "RequestThrottledException",
    "TooManyRequestsException", "ProvisionedThroughputExceededException",
    "TransactionInProgressException", "RequestLimitExceeded", "BandwidthLimitExceeded",
    "LimitExceededException", "RequestThrottled", "SlowDown", "EC2ThrottledException",
    "PriorRequestNotComplete",
    "RequestTimeTooSkewed", "RequestExpired", "RequestInTheFuture",
    "RequestTimeout", "RequestTimeoutException", "InternalError", "ServiceUnavailable"]

/-- The code reports a wrong clock for certain. -/
def isDefiniteSkew (code : String) : Bool := definiteSkew.contains code

/-- The code may come from a wrong clock. -/
def isPossibleSkew (code : String) : Bool := possibleSkew.contains code

/-- The code asks for fewer requests. -/
def isThrottling (code : String) : Bool := throttling.contains code

/-- The code reports a passing disturbance. -/
def isTransient (code : String) : Bool := transient.contains code

/-- The code allows another attempt. -/
def isRetryable (code : String) : Bool := retryable.contains code

/-- Throttling, a wrong clock and a passing disturbance are all that allows another
attempt. -/
theorem retryable_eq : retryable = throttling ++ definiteSkew ++ transient := rfl

theorem isRetryable_eq (code : String) :
    isRetryable code = (isThrottling code || isDefiniteSkew code || isTransient code) := by
  rw [isRetryable, retryable_eq, List.contains_append, List.contains_append]
  rfl

end Triage.ErrorCode

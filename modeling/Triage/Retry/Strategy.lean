import Triage.FailureKind
import Triage.Number.Binary64
import Triage.Retry.Delay

/-!
# Backoff

The delay before another attempt starts at a base, doubles with every attempt up
to the thirty-second, and stops at a maximum.  A jitter, which depends on nothing
but the attempt, then adds to the delay of even attempts and takes from the delay
of odd ones up to a percentage of it.  Delays are computed in 64-bit words of
milliseconds, the jitter in 64-bit binary numbers.  The sum of both wraps around in a
signed word, as it does where overflow is not checked, and below zero there is no delay.
-/

namespace Triage.Retry

open Triage.Number

/-- How long to wait, and how often to try. -/
structure Strategy where
  baseDelay : Delay
  throttlingBaseDelay : Delay
  maxDelay : Delay
  maxAttempts : UInt32
  jitterPercent : UInt8
deriving DecidableEq

/-- The largest 64-bit word. -/
abbrev maxWord : Nat := 18446744073709551615

/-- The largest signed 64-bit word. -/
abbrev maxSignedWord : Nat := 9223372036854775807

namespace Strategy

/-- The strategy where nothing else is asked for. -/
def standard : Strategy where
  baseDelay := Delay.ofMilliseconds 100
  throttlingBaseDelay := Delay.ofMilliseconds 500
  maxDelay := Delay.ofMilliseconds 20000
  maxAttempts := 3
  jitterPercent := 10

instance : Inhabited Strategy := ⟨standard⟩

/-- A strategy that waits twice as long when the service asks for fewer requests,
with a jitter of at most the whole delay. -/
def ofBase (baseDelay maxDelay : Delay) (maxAttempts : UInt32) (jitterPercent : UInt8) :
    Strategy where
  baseDelay := baseDelay
  throttlingBaseDelay := baseDelay.doubled
  maxDelay := maxDelay
  maxAttempts := maxAttempts
  jitterPercent := min jitterPercent 100

end Strategy

/-- The factor by which the base grows until an attempt. -/
def growth (attempt : Nat) : Nat := Nat.pow 2 (min (attempt - 1) 31)

/-- The delay of an attempt in milliseconds, before the jitter. -/
def cappedMilliseconds (base maximum : Delay) (attempt : Nat) : Nat :=
  min (min (base.millisecondsWord.toNat * growth attempt) maxWord)
    maximum.millisecondsWord.toNat

/-- The part of the jitter range that an attempt uses, in fifths. -/
def jitterShare (attempt : Nat) : Rat := nearest ((attempt % 5 + 1 : Nat) / 5)

/-- The size of the jitter in milliseconds; every operation rounds to 53
significant bits and the result drops its fraction. -/
def jitterMagnitude (milliseconds percent attempt : Nat) : Nat :=
  let range := nearest (nearest (nearest milliseconds * percent) / 100)
  (nearest (range * jitterShare attempt)).floor.toNat

/-- The jitter of an attempt: even attempts wait longer, odd ones shorter. -/
def jitter (milliseconds percent attempt : Nat) : Int :=
  let magnitude := jitterMagnitude milliseconds percent attempt
  if attempt % 2 = 0 then
    (min magnitude maxSignedWord : Nat)
  else
    -(min magnitude (maxSignedWord + 1) : Nat)

namespace Strategy

/-- The delay of an attempt that starts from a base. -/
def backoff (strategy : Strategy) (base : Delay) (attempt : UInt32) : Delay :=
  if attempt = 0 then
    base.shorter strategy.maxDelay
  else
    let capped := cappedMilliseconds base strategy.maxDelay attempt.toNat
    let moved : Int := Int.bmod capped (maxWord + 1) +
      jitter capped strategy.jitterPercent.toNat attempt.toNat
    Delay.ofMilliseconds (UInt64.ofNat (Int.bmod moved (maxWord + 1)).toNat)

/-- The delay of an ordinary attempt. -/
def delay (strategy : Strategy) (attempt : UInt32) : Delay :=
  strategy.backoff strategy.baseDelay attempt

/-- The delay after a failure of some kind; throttling has a base of its own. -/
def delayFor (strategy : Strategy) (attempt : UInt32) (kind : FailureKind) : Delay :=
  match kind with
  | .throttling => strategy.backoff strategy.throttlingBaseDelay attempt
  | _ => strategy.backoff strategy.baseDelay attempt

end Strategy

end Triage.Retry

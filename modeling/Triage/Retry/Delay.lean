/-!
# Waiting times

A delay is an exact, unsigned number of nanoseconds below `2^64` seconds.
Doubling a delay stops at the longest one.
-/

namespace Triage.Retry

/-- Delays stay below this many nanoseconds. -/
def Delay.limit : Nat := 18446744073709551616 * 1000000000

/-- A waiting time. -/
@[ext]
structure Delay where
  nanoseconds : Nat
  bounded : nanoseconds < Delay.limit
deriving DecidableEq

namespace Delay

/-- No waiting. -/
def zero : Delay := ⟨0, by decide⟩

instance : Inhabited Delay := ⟨zero⟩

/-- The delay of this many nanoseconds, when it is in range. -/
def ofNanoseconds? (nanoseconds : Nat) : Option Delay :=
  if bounded : nanoseconds < limit then some ⟨nanoseconds, bounded⟩ else none

/-- The delay of a number of milliseconds. -/
def ofMilliseconds (milliseconds : UInt64) : Delay where
  nanoseconds := milliseconds.toNat * 1000000
  bounded := by
    have := milliseconds.toNat_lt
    simp only [limit]
    omega

/-- Whole milliseconds, rounded down. -/
def milliseconds (delay : Delay) : Nat := delay.nanoseconds / 1000000

/-- Whole milliseconds in a 64-bit word, which keeps the low bits of long delays. -/
def millisecondsWord (delay : Delay) : UInt64 := UInt64.ofNat delay.milliseconds

instance : LE Delay := ⟨fun first second => first.nanoseconds ≤ second.nanoseconds⟩

instance (first second : Delay) : Decidable (first ≤ second) :=
  inferInstanceAs (Decidable (first.nanoseconds ≤ second.nanoseconds))

/-- The shorter of two delays. -/
def shorter (first second : Delay) : Delay := if first ≤ second then first else second

/-- Twice the delay, or the longest delay when that is out of range. -/
def doubled (delay : Delay) : Delay where
  nanoseconds := min (2 * delay.nanoseconds) (limit - 1)
  bounded := by
    simp only [limit]
    omega

end Delay

end Triage.Retry

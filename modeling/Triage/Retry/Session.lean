import Triage.Retry.Counter

/-!
# Runs of failed attempts

A session is the client's side of a run of attempts: the counters so far, and the
last clock correction when the client carries corrections over to its later
requests.  A step whose clock cannot be judged changes nothing.
-/

namespace Triage.Retry

open Triage.Log Triage.Time

/-- The state between attempts. -/
structure Session where
  metrics : Metrics
  carriesOffset : Bool
  offset : Option Span
deriving DecidableEq

/-- One failed attempt at a moment. -/
structure Attempt where
  number : UInt32
  failure : ServiceFailure
  now : Instant
deriving DecidableEq

namespace Session

/-- A session that has seen nothing yet. -/
def start (metrics : Metrics) (carriesOffset : Bool) : Session :=
  ⟨metrics, carriesOffset, none⟩

/-- The failure as the client sends it: with the carried offset, once there is one. -/
def failureOf (session : Session) (attempt : Attempt) : ServiceFailure :=
  match session.offset with
  | some offset =>
      if session.carriesOffset then attempt.failure.withClockOffset offset
      else attempt.failure
  | none => attempt.failure

/-- Decide about one failed attempt. -/
def step (strategy : Strategy) (session : Session) (attempt : Attempt) :
    Session × Option (Logged Decision) :=
  match strategy.decideLogged? attempt.number (session.failureOf attempt) attempt.now with
  | none => (session, none)
  | some decided =>
      ({ session with
          metrics := session.metrics.record decided.value
          offset := decided.value.clockSkew?.or session.offset }, some decided)

/-- Decide about failed attempts in order, with the session after each of them. -/
def run (strategy : Strategy) (session : Session) :
    List Attempt → List (Session × Option (Logged Decision))
  | [] => []
  | attempt :: later =>
      let (next, decided) := session.step strategy attempt
      (next, decided) :: next.run strategy later

end Session

end Triage.Retry

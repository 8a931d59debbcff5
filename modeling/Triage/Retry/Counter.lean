import Triage.Retry.Decision

/-!
# Counting decisions

A counter holds a signed 64-bit number that wraps around, or counts nothing.
Three counters follow the decisions of a strategy: attempts made again, work
given up, and clocks corrected.
-/

namespace Triage.Retry

/-- A counter, which may be silent. -/
inductive Counter where
  | tally (count : Int64)
  | silent
deriving DecidableEq

namespace Counter

/-- A tally that has counted nothing yet. -/
def zero : Counter := tally 0

/-- The count so far; a silent counter stays at zero. -/
def count : Counter → Int64
  | tally count => count
  | silent => 0

/-- Count up by an amount. -/
def incrementBy (counter : Counter) (amount : Int64) : Counter :=
  match counter with
  | tally count => tally (count + amount)
  | silent => silent

/-- Count down by an amount. -/
def decrementBy (counter : Counter) (amount : Int64) : Counter :=
  match counter with
  | tally count => tally (count - amount)
  | silent => silent

/-- Count up by one. -/
def increment (counter : Counter) : Counter := counter.incrementBy 1

/-- Count down by one. -/
def decrement (counter : Counter) : Counter := counter.decrementBy 1

/-- One step of a counter. -/
inductive Step where
  | increment
  | decrement
  | incrementBy (amount : Int64)
  | decrementBy (amount : Int64)
deriving DecidableEq

/-- Take one step. -/
def apply (counter : Counter) : Step → Counter
  | .increment => counter.increment
  | .decrement => counter.decrement
  | .incrementBy amount => counter.incrementBy amount
  | .decrementBy amount => counter.decrementBy amount

/-- Take steps in order. -/
def run (counter : Counter) (steps : List Step) : Counter := steps.foldl apply counter

end Counter

/-- The counters of a strategy. -/
structure Metrics where
  retries : Counter
  giveUps : Counter
  corrections : Counter
deriving DecidableEq

namespace Metrics

/-- Three tallies that have counted nothing yet. -/
def zero : Metrics := ⟨.zero, .zero, .zero⟩

/-- Three silent counters. -/
def silent : Metrics := ⟨.silent, .silent, .silent⟩

/-- Count a decision. -/
def record (metrics : Metrics) : Decision → Metrics
  | .giveUp _ => { metrics with giveUps := metrics.giveUps.increment }
  | .retryWithClockSkew _ _ =>
      { metrics with
        retries := metrics.retries.increment
        corrections := metrics.corrections.increment }
  | .retry _ => { metrics with retries := metrics.retries.increment }

end Metrics

end Triage.Retry

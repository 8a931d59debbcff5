import Triage.Log.Event
import Triage.Transfer.Completed

/-!
# Collecting failures

Many workers record failures in one collector.  A worker may die right after it
recorded a failure, with the collector still locked; the list it leaves behind is
whole, so the collector stays in use.

A collector is shared through handles and counts its owners.  Finishing through
a handle gives the handle up; the collector is taken apart only by its last owner,
all others learn how many owners remain.
-/

namespace Triage.Transfer

open Triage.Log

universe u

/-- A collector and the state of its lock. -/
structure Collector (α : Type u) where
  failures : List α
  poisoned : Bool

namespace Collector

variable {α : Type u}

/-- A collector that has recorded nothing yet. -/
def fresh : Collector α := ⟨[], false⟩

/-- What a worker finds when it takes the lock. -/
inductive Access (α : Type u) where
  | clean (failures : List α)
  | poisoned (failures : List α)

/-- Take the lock. -/
def access (collector : Collector α) : Access α :=
  if collector.poisoned then .poisoned collector.failures else .clean collector.failures

/-- The failures behind the lock, whoever held it last. -/
def Access.failures : Access α → List α
  | clean failures => failures
  | poisoned failures => failures

/-- Record a failure. -/
def record (collector : Collector α) (failure : α) : Collector α :=
  { collector with failures := collector.access.failures ++ [failure] }

/-- Record a failure and die before the lock is released. -/
def recordAndDie (collector : Collector α) (failure : α) : Collector α :=
  ⟨collector.access.failures ++ [failure], true⟩

/-- How many failures have been recorded. -/
def count (collector : Collector α) : Nat := collector.access.failures.length

/-- The result of the transfer. -/
def finish (collector : Collector α) : Completed α := ⟨collector.access.failures⟩

/-- A poisoned lock hides nothing. -/
@[simp]
theorem failures_access (collector : Collector α) :
    collector.access.failures = collector.failures := by
  unfold access
  split <;> rfl

@[simp]
theorem failures_record (collector : Collector α) (failure : α) :
    (collector.record failure).failures = collector.failures ++ [failure] := by
  simp [record]

@[simp]
theorem failures_recordAndDie (collector : Collector α) (failure : α) :
    (collector.recordAndDie failure).failures = collector.failures ++ [failure] := by
  simp [recordAndDie]

@[simp]
theorem count_eq (collector : Collector α) : collector.count = collector.failures.length := by
  simp [count]

@[simp]
theorem finish_eq (collector : Collector α) : collector.finish = ⟨collector.failures⟩ := by
  simp [finish]

end Collector

/-- A collector with the number of its owners. -/
structure Shared (α : Type u) where
  collector : Collector α
  owners : Nat

/-- Collectors and the handles to them.  A handle names its collector by its place;
a handle that was given up names none. -/
structure Handles (α : Type u) where
  shared : List (Shared α)
  targets : List (Option Nat)

namespace Handles

variable {α : Type u}

/-- What is done through handles. -/
inductive Operation (α : Type u) where
  | create
  | clone (handle : Nat)
  | record (handle : Nat) (failure : α)
  | recordAndDie (handle : Nat) (failure : α)
  | count (handle : Nat)
  | drop (handle : Nat)
  | finish (handle : Nat)

/-- What an operation answers. -/
inductive Reply (α : Type u) where
  | handle (index : Nat)
  | count (failures : Nat)
  | died (failures : Nat)
  | dropped
  | finished (result : Completed α)
  | stillShared (others : Nat)
  | deadHandle

/-- The text of the refusal to take a shared collector apart. -/
def stillSharedMessage (others : Nat) : String :=
  "collector is still shared by " ++ toString others ++ " other handle(s)"

/-- No collectors and no handles. -/
def empty : Handles α := ⟨[], []⟩

/-- A fresh collector with one handle. -/
def create (handles : Handles α) : Handles α where
  shared := handles.shared ++ [⟨Collector.fresh, 1⟩]
  targets := handles.targets ++ [some handles.shared.length]

/-- The start: one collector, and handle zero to it. -/
def start : Handles α := empty.create

/-- The place of the collector behind a live handle. -/
def target? (handles : Handles α) (handle : Nat) : Option Nat :=
  handles.targets[handle]?.join

/-- The collector behind a live handle, with its place. -/
def find? (handles : Handles α) (handle : Nat) : Option (Nat × Shared α) :=
  (handles.target? handle).bind fun place =>
    (handles.shared[place]?).map fun shared => (place, shared)

theorem target?_eq_some_iff {handles : Handles α} {handle place : Nat} :
    handles.target? handle = some place ↔ handles.targets[handle]? = some (some place) :=
  Option.join_eq_some_iff

theorem find?_eq_some_iff {handles : Handles α} {handle place : Nat} {shared : Shared α} :
    handles.find? handle = some (place, shared) ↔
      handles.target? handle = some place ∧ handles.shared[place]? = some shared := by
  simp [find?, Option.bind_eq_some_iff]

/-- Put another state of a collector in its place. -/
def setShared (handles : Handles α) (place : Nat) (shared : Shared α) : Handles α :=
  { handles with shared := handles.shared.set place shared }

/-- One more handle to a collector. -/
def addHandle (handles : Handles α) (place : Nat) (shared : Shared α) : Handles α where
  shared := handles.shared.set place { shared with owners := shared.owners + 1 }
  targets := handles.targets ++ [some place]

/-- Give a handle up. -/
def release (handles : Handles α) (handle place : Nat) (shared : Shared α) : Handles α where
  shared := handles.shared.set place { shared with owners := shared.owners - 1 }
  targets := handles.targets.set handle none

/-- One operation: the handles after it, its answer and its events.  A whole finish is one
step, which counts the owners and gives the handle up at once.  Finishes that overlap, each of
them refused because the other one still has its handle, are outside of this model. -/
def step (handles : Handles α) (operation : Operation α) :
    Handles α × Logged (Reply α) :=
  match operation with
  | .create => (handles.create, ⟨.handle handles.targets.length, []⟩)
  | .clone handle =>
      match handles.find? handle with
      | some (place, shared) =>
          (handles.addHandle place shared, ⟨.handle handles.targets.length, []⟩)
      | none => (handles, ⟨.deadHandle, []⟩)
  | .record handle failure =>
      match handles.find? handle with
      | some (place, shared) =>
          let collector := shared.collector.record failure
          (handles.setShared place { shared with collector := collector },
            ⟨.count collector.count, [.failureRecorded collector.count]⟩)
      | none => (handles, ⟨.deadHandle, []⟩)
  | .recordAndDie handle failure =>
      match handles.find? handle with
      | some (place, shared) =>
          let collector := shared.collector.recordAndDie failure
          (handles.setShared place { shared with collector := collector },
            ⟨.died collector.count, []⟩)
      | none => (handles, ⟨.deadHandle, []⟩)
  | .count handle =>
      match handles.find? handle with
      | some (_, shared) => (handles, ⟨.count shared.collector.count, []⟩)
      | none => (handles, ⟨.deadHandle, []⟩)
  | .drop handle =>
      match handles.find? handle with
      | some (place, shared) => (handles.release handle place shared, ⟨.dropped, []⟩)
      | none => (handles, ⟨.deadHandle, []⟩)
  | .finish handle =>
      match handles.find? handle with
      | some (place, shared) =>
          let result := shared.collector.finish
          if shared.owners = 1 then
            (handles.release handle place shared,
              ⟨.finished result, [.transferFinished result.failures.length]⟩)
          else
            (handles.release handle place shared, ⟨.stillShared (shared.owners - 1), []⟩)
      | none => (handles, ⟨.deadHandle, []⟩)

/-- Operations in order, with the answer of each. -/
def run (handles : Handles α) : List (Operation α) → Handles α × List (Logged (Reply α))
  | [] => (handles, [])
  | operation :: later =>
      let (next, reply) := handles.step operation
      let (last, replies) := next.run later
      (last, reply :: replies)

@[simp]
theorem run_cons (handles : Handles α) (operation : Operation α) (later : List (Operation α)) :
    handles.run (operation :: later) =
      (((handles.step operation).1.run later).1,
        (handles.step operation).2 :: ((handles.step operation).1.run later).2) := rfl

end Handles

end Triage.Transfer

/-!
# Completed directory transfers

The result of a directory transfer lists the failures in the order in which they
were recorded, but two results are equal when they hold the same failures, each as
often, in any order.  What is hashed does not depend on the order either: the
number of failures and the wrapping sum of their hashes.
-/

namespace Triage.Transfer

universe u

/-- The result of a directory transfer. -/
structure Completed (α : Type u) where
  failures : List α

namespace Completed

variable {α : Type u}

/-- A transfer without failures. -/
def empty : Completed α := ⟨[]⟩

/-- The result with one more failure. -/
def add (result : Completed α) (failure : α) : Completed α :=
  ⟨result.failures ++ [failure]⟩

/-- A builder that adds failures one after the other has them in this order. -/
theorem foldl_add (result : Completed α) (failures : List α) :
    failures.foldl add result = ⟨result.failures ++ failures⟩ := by
  induction failures generalizing result with
  | nil => rw [List.append_nil, List.foldl_nil]
  | cons failure failures ih =>
      rw [List.foldl_cons, ih, add, List.append_assoc]
      rfl

/-- Every file was transferred. -/
def isSuccess (result : Completed α) : Bool := result.failures.isEmpty

/-- The place of the first candidate that equals a failure and is not taken. -/
def firstFree? [BEq α] (failure : α) (candidates : List α) (taken : List Bool) : Option Nat :=
  (candidates.zip taken).findIdx? fun (candidate, isTaken) =>
    !isTaken && candidate == failure

/-- Pair off failures with equal candidates.  Every failure takes the first candidate
that is free, and a mark keeps the candidate from being taken again. -/
def pairsOff [BEq α] (candidates : List α) : List α → (taken : List Bool) → Bool
  | [], _ => true
  | failure :: later, taken =>
      match firstFree? failure candidates taken with
      | some index => pairsOff candidates later (taken.set index true)
      | none => false

/-- The same failures, each as often. -/
def equal [BEq α] (first second : Completed α) : Bool :=
  first.failures.length == second.failures.length &&
    pairsOff second.failures first.failures
      (List.replicate second.failures.length false)

instance [BEq α] : BEq (Completed α) := ⟨equal⟩

/-- What is hashed of a result, given a hash of its elements. -/
def hashInput (elementHash : α → UInt64) (result : Completed α) : Nat × UInt64 :=
  (result.failures.length,
    (result.failures.map elementHash).foldl (fun sum value => sum + value) 0)

/-- Put a result into a set, unless an equal one with an equal hash is there. -/
def insertDistinct [BEq α] (elementHash : α → UInt64) (set : List (Completed α))
    (result : Completed α) : List (Completed α) :=
  if set.any fun present =>
      hashInput elementHash present == hashInput elementHash result && present == result then
    set
  else
    set ++ [result]

/-- The set of some results. -/
def distinct [BEq α] (elementHash : α → UInt64) (results : List (Completed α)) :
    List (Completed α) :=
  results.foldl (insertDistinct elementHash) []

end Completed

end Triage.Transfer

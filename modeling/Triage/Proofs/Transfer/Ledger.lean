import Mathlib.Data.Finset.Card
import Mathlib.Data.Finset.Range
import Triage.Transfer.Collector

/-!
# The ledger of a run

A ledger tells a run on shared collectors again, without owners, locks and poison:
the collector that each handle belongs to, and one log of all failures in the order
in which they were recorded, each with its collector.  What an operation answers is
read off the ledger.

Handles represent a ledger when they show the same collectors and every collector
has as many owners as it has live handles.  Operations keep this, so every run
answers what its ledger says.
-/

namespace Triage.Transfer

open Handles

universe u

variable {α : Type u}

/-! ## Holders -/

/-- The handles that name a collector. -/
def holders (targets : List (Option Nat)) (place : Nat) : Finset Nat :=
  (Finset.range targets.length).filter fun handle => targets[handle]? = some (some place)

@[simp]
theorem mem_holders {targets : List (Option Nat)} {place handle : Nat} :
    handle ∈ holders targets place ↔ targets[handle]? = some (some place) := by
  rw [holders, Finset.mem_filter, Finset.mem_range, and_iff_right_iff_imp]
  intro named
  exact (List.getElem?_eq_some_iff.mp named).1

/-- A new handle is one more holder of its collector. -/
theorem holders_concat (targets : List (Option Nat)) (home place : Nat) :
    holders (targets ++ [some home]) place =
      if home = place then insert targets.length (holders targets place)
      else holders targets place := by
  ext handle
  rcases lt_trichotomy handle targets.length with old | rfl | beyond
  · split
    · simp [List.getElem?_append_left old, Nat.ne_of_lt old]
    · simp [List.getElem?_append_left old]
  · split <;> simp_all
  · have outside : targets.length + 1 ≤ handle := beyond
    have nothing : (targets ++ [some home])[handle]? = none := by simpa using outside
    have nothingBefore : targets[handle]? = none := by simpa using Nat.le_of_lt beyond
    split <;> simp [nothing, nothingBefore, Nat.ne_of_gt beyond]

/-- A handle that is given up holds nothing. -/
theorem holders_set_none (targets : List (Option Nat)) (handle place : Nat) :
    holders (targets.set handle none) place = (holders targets place).erase handle := by
  ext other
  rw [Finset.mem_erase, mem_holders, mem_holders, List.getElem?_set]
  by_cases same : handle = other
  · subst same
    simp
  · simp [same, Ne.symm same]

/-- The live handles to a collector. -/
def Handles.liveTo (handles : Handles α) (place : Nat) : Finset Nat :=
  holders handles.targets place

theorem Handles.mem_liveTo {handles : Handles α} {place handle : Nat} :
    handle ∈ handles.liveTo place ↔ handles.target? handle = some place := by
  rw [liveTo, mem_holders, target?_eq_some_iff]

/-! ## Ledgers -/

/-- The collectors of a run, the collector of each live handle, and all failures with
their collectors in the order in which they were recorded. -/
structure Ledger (α : Type u) where
  collectors : Nat
  homes : List (Option Nat)
  recorded : List (Nat × α)

namespace Ledger

/-- Nothing has happened yet. -/
def empty : Ledger α := ⟨0, [], []⟩

/-- The collector of a live handle. -/
def home? (ledger : Ledger α) (handle : Nat) : Option Nat := ledger.homes[handle]?.join

/-- The live handles to a collector. -/
def liveTo (ledger : Ledger α) (place : Nat) : Finset Nat := holders ledger.homes place

/-- The failures recorded on a collector, in order. -/
def failuresOf (ledger : Ledger α) (place : Nat) : List α :=
  (ledger.recorded.filter fun entry => entry.1 = place).map Prod.snd

/-- One more handle, to a collector. -/
def openHandle (ledger : Ledger α) (place : Nat) : Ledger α :=
  { ledger with homes := ledger.homes ++ [some place] }

/-- One more failure, on a collector. -/
def enter (ledger : Ledger α) (place : Nat) (failure : α) : Ledger α :=
  { ledger with recorded := ledger.recorded ++ [(place, failure)] }

/-- A handle is given up. -/
def close (ledger : Ledger α) (handle : Nat) : Ledger α :=
  { ledger with homes := ledger.homes.set handle none }

/-- The ledger after an operation.  A failure counts whether or not its worker
survives, and finishing gives the handle up whether or not it succeeds. -/
def after (ledger : Ledger α) : Operation α → Ledger α
  | .create =>
      { ledger.openHandle ledger.collectors with collectors := ledger.collectors + 1 }
  | .clone handle => (ledger.home? handle).elim ledger ledger.openHandle
  | .record handle failure | .recordAndDie handle failure =>
      (ledger.home? handle).elim ledger (ledger.enter · failure)
  | .count _ => ledger
  | .drop handle | .finish handle => ledger.close handle

/-- The answer to the owner who finishes while so many others are left. -/
def departure (result : Completed α) : (others : Nat) → Reply α
  | 0 => .finished result
  | others + 1 => .stillShared (others + 1)

/-- Only the last owner gets the result. -/
theorem departure_eq_finished_iff {result other : Completed α} {others : Nat} :
    departure result others = .finished other ↔ others = 0 ∧ result = other := by
  cases others <;> simp [departure]

/-- An answer about the collector of a handle, if the handle is live. -/
def about (ledger : Ledger α) (handle : Nat) (answer : (place : Nat) → Reply α) : Reply α :=
  (ledger.home? handle).elim .deadHandle answer

/-- The answer to an operation. -/
def answer (ledger : Ledger α) : Operation α → Reply α
  | .create => .handle ledger.homes.length
  | .clone handle => ledger.about handle fun _ => .handle ledger.homes.length
  | .record handle _ =>
      ledger.about handle fun place => .count ((ledger.failuresOf place).length + 1)
  | .recordAndDie handle _ =>
      ledger.about handle fun place => .died ((ledger.failuresOf place).length + 1)
  | .count handle => ledger.about handle fun place => .count (ledger.failuresOf place).length
  | .drop handle => ledger.about handle fun _ => .dropped
  | .finish handle =>
      ledger.about handle fun place =>
        departure ⟨ledger.failuresOf place⟩ ((ledger.liveTo place).erase handle).card

/-- The ledger after some operations. -/
def afterAll (ledger : Ledger α) (operations : List (Operation α)) : Ledger α :=
  operations.foldl after ledger

/-- The answers to operations in order. -/
def answers (ledger : Ledger α) : List (Operation α) → List (Reply α)
  | [] => []
  | operation :: later => ledger.answer operation :: (ledger.after operation).answers later

@[simp]
theorem afterAll_nil (ledger : Ledger α) : ledger.afterAll [] = ledger := rfl

@[simp]
theorem afterAll_cons (ledger : Ledger α) (operation : Operation α)
    (later : List (Operation α)) :
    ledger.afterAll (operation :: later) = (ledger.after operation).afterAll later := rfl

theorem afterAll_append (ledger : Ledger α) (earlier later : List (Operation α)) :
    ledger.afterAll (earlier ++ later) = (ledger.afterAll earlier).afterAll later :=
  List.foldl_append

theorem length_answers (ledger : Ledger α) (operations : List (Operation α)) :
    (ledger.answers operations).length = operations.length := by
  induction operations generalizing ledger with
  | nil => rfl
  | cons operation later ih => simp [answers, ih]

theorem answers_append (ledger : Ledger α) (earlier later : List (Operation α)) :
    ledger.answers (earlier ++ later) =
      ledger.answers earlier ++ (ledger.afterAll earlier).answers later := by
  induction earlier generalizing ledger with
  | nil => rfl
  | cons operation earlier ih => simp [answers, ih]

theorem mem_liveTo {ledger : Ledger α} {place handle : Nat} :
    handle ∈ ledger.liveTo place ↔ ledger.home? handle = some place := by
  rw [liveTo, mem_holders, home?, Option.join_eq_some_iff]

theorem liveTo_openHandle (ledger : Ledger α) (home place : Nat) :
    (ledger.openHandle home).liveTo place =
      if home = place then insert ledger.homes.length (ledger.liveTo place)
      else ledger.liveTo place :=
  holders_concat ledger.homes home place

theorem liveTo_after_create (ledger : Ledger α) (place : Nat) :
    (ledger.after .create).liveTo place =
      if ledger.collectors = place then insert ledger.homes.length (ledger.liveTo place)
      else ledger.liveTo place :=
  holders_concat ledger.homes ledger.collectors place

theorem length_notMem_liveTo (ledger : Ledger α) (place : Nat) :
    ledger.homes.length ∉ ledger.liveTo place := by
  simp [liveTo]

@[simp]
theorem liveTo_close (ledger : Ledger α) (handle place : Nat) :
    (ledger.close handle).liveTo place = (ledger.liveTo place).erase handle :=
  holders_set_none ledger.homes handle place

theorem home?_close (ledger : Ledger α) (handle other : Nat) :
    (ledger.close handle).home? other = if other = handle then none else ledger.home? other := by
  rw [home?, close, List.getElem?_set]
  by_cases same : handle = other
  · subst same
    rw [if_pos rfl, if_pos rfl]
    split <;> rfl
  · rw [if_neg same, if_neg (Ne.symm same)]
    rfl

/-- A handle that is not live cannot be given up. -/
theorem close_of_home?_eq_none {ledger : Ledger α} {handle : Nat}
    (dead : ledger.home? handle = none) : ledger.close handle = ledger := by
  have unchanged : ledger.homes.set handle none = ledger.homes := by
    apply List.ext_getElem?
    intro other
    rw [List.getElem?_set]
    split
    · rename_i same
      subst same
      rw [home?] at dead
      cases entry : ledger.homes[handle]? with
      | none => simpa using entry
      | some home =>
          have inside := (List.getElem?_eq_some_iff.mp entry).1
          simp_all
    · rfl
  rw [close, unchanged]

@[simp]
theorem failuresOf_enter (ledger : Ledger α) (home : Nat) (failure : α) (place : Nat) :
    (ledger.enter home failure).failuresOf place =
      ledger.failuresOf place ++ if home = place then [failure] else [] := by
  by_cases own : home = place <;> simp [failuresOf, enter, List.filter_append, own]

end Ledger

end Triage.Transfer

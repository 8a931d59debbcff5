import Mathlib.Algebra.BigOperators.Group.List.Basic
import Mathlib.Algebra.Ring.Int.Defs
import Triage.Proofs.Transfer.Interleaving
import Triage.Retry.Counter

/-!
# Counters count modulo a word

Each step adds a signed amount to a tally, which wraps around at 64 bits.  Taking an
integer into its word commutes with sums, so after any steps the tally holds the word of
their exact sum, whatever wrapped around on the way.  A sum does not depend on the order of
the steps, hence neither does the tally, and opposite steps take each other back.
-/

namespace Triage.Retry.Counter

open Triage.Transfer (Interleaving)

/-! ## Signed amounts -/

namespace Step

/-- The signed amount of a step, without a limit. -/
def change : Step → Int
  | .increment => 1
  | .decrement => -1
  | .incrementBy amount => amount.toInt
  | .decrementBy amount => -amount.toInt

/-- The step that counts as much the other way. -/
def opposite : Step → Step
  | .increment => .decrement
  | .decrement => .increment
  | .incrementBy amount => .decrementBy amount
  | .decrementBy amount => .incrementBy amount

@[simp]
theorem change_opposite (step : Step) : step.opposite.change = -step.change := by
  cases step with
  | increment => rfl
  | decrement => rfl
  | incrementBy amount => rfl
  | decrementBy amount => exact (Int.neg_neg amount.toInt).symm

end Step

/-- The sum of the amounts of some steps, without a limit. -/
def total (steps : List Step) : Int := (steps.map Step.change).sum

@[simp]
theorem total_cons (step : Step) (steps : List Step) :
    total (step :: steps) = step.change + total steps := rfl

@[simp]
theorem total_append (first second : List Step) :
    total (first ++ second) = total first + total second := by
  rw [total, List.map_append, List.sum_append]
  rfl

theorem total_flatten (threads : List (List Step)) :
    total threads.flatten = (threads.map total).sum := by
  induction threads with
  | nil => rfl
  | cons thread threads ih =>
      rw [List.flatten_cons, total_append, ih, List.map_cons, List.sum_cons]

/-- The order of the steps does not matter to their sum. -/
theorem total_perm {first second : List Step} (same : first.Perm second) :
    total first = total second :=
  (same.map Step.change).sum_eq

@[simp]
theorem total_opposites (steps : List Step) :
    total (steps.map Step.opposite) = -total steps := by
  induction steps with
  | nil => rfl
  | cons step steps ih =>
      rw [List.map_cons, total_cons, total_cons, Step.change_opposite, ih, Int.neg_add]

/-! ## Words -/

/-- A step adds the word of its amount. -/
theorem apply_tally (count : Int64) (step : Step) :
    (tally count).apply step = tally (count + Int64.ofInt step.change) := by
  cases step with
  | increment => rfl
  | decrement =>
      change tally (count - 1) = _
      rw [Int64.sub_eq_add_neg]
      rfl
  | incrementBy amount =>
      change tally (count + amount) = _
      rw [Step.change, Int64.ofInt_toInt]
  | decrementBy amount =>
      change tally (count - amount) = _
      rw [Step.change, Int64.ofInt_neg, Int64.ofInt_toInt, Int64.sub_eq_add_neg]

/-- Steps taken in order add the word of their sum. -/
theorem run_tally (count : Int64) (steps : List Step) :
    (tally count).run steps = tally (count + Int64.ofInt (total steps)) := by
  induction steps generalizing count with
  | nil => exact congrArg tally (Int64.add_zero count).symm
  | cons step steps ih =>
      calc (tally count).run (step :: steps)
          = ((tally count).apply step).run steps := rfl
        _ = tally (count + Int64.ofInt step.change + Int64.ofInt (total steps)) := by
            rw [apply_tally, ih]
        _ = tally (count + Int64.ofInt (total (step :: steps))) := by
            rw [Int64.add_assoc, ← Int64.ofInt_add, total_cons]

theorem run_zero (steps : List Step) : zero.run steps = tally (Int64.ofInt (total steps)) := by
  rw [zero, run_tally, Int64.zero_add]

/-- A fresh tally shows the exact sum, reduced to the signed numbers of 64 bits. -/
theorem toInt_count_run_zero (steps : List Step) :
    (zero.run steps).count.toInt = Int.bmod (total steps) (2 ^ 64) := by
  rw [run_zero]
  exact Int64.toInt_ofInt

/-- Fresh tallies agree after steps of the same sum. -/
theorem run_zero_congr {first second : List Step} (same : total first = total second) :
    zero.run first = zero.run second := by
  rw [run_zero, run_zero, same]

/-! ## Order and opposites -/

/-- After each step of a run a fresh tally shows the exact sum of the signed amounts so far,
reduced to the signed numbers of 64 bits.  So every order of the steps, and every order in
which threads take their turns, ends in the same tally, and opposite steps take it back to
what it was before, in any order. -/
theorem tally_shows_wrapped_sum (steps : List Step) :
    (∀ taken, (zero.run (steps.take taken)).count.toInt =
      Int.bmod (total (steps.take taken)) (2 ^ 64)) ∧
    (∀ reordered, reordered.Perm steps → zero.run reordered = zero.run steps) ∧
    (∀ threads schedule, threads.flatten = steps → Interleaving threads schedule →
      zero.run schedule = zero.run steps ∧
        (zero.run schedule).count.toInt = Int.bmod (threads.map total).sum (2 ^ 64)) ∧
    (∀ later undoing, undoing.Perm (later.map Step.opposite) →
      zero.run (steps ++ later ++ undoing) = zero.run steps) := by
  refine ⟨fun taken => toInt_count_run_zero _, ?_, ?_, ?_⟩
  · intro reordered same
    exact run_zero_congr (total_perm same)
  · rintro threads schedule rfl interleaved
    have same := total_perm interleaved.perm_flatten
    refine ⟨run_zero_congr same, ?_⟩
    rw [toInt_count_run_zero, same, total_flatten]
  · intro later undoing opposite
    apply run_zero_congr
    rw [total_append, total_append, total_perm opposite, total_opposites,
      Int.add_neg_cancel_right]

/-- Steps that wrap around twice, the second time by an amount without a negative. -/
def overflowing : List Step :=
  [.incrementBy 9223372036854775807, .increment, .decrementBy (-9223372036854775808), .decrement]

/-- Two threads that take the steps by turns, and the steps taken back in their order. -/
theorem tally_shows_wrapped_sum_overflowing :
    ((zero.run (overflowing.take 2)).count.toInt = -9223372036854775808 ∧
      (zero.run (overflowing.take 3)).count.toInt = 0) ∧
    Interleaving [overflowing.take 2, overflowing.drop 2]
      [.decrementBy (-9223372036854775808), .incrementBy 9223372036854775807, .decrement,
        .increment] ∧
    zero.run [.decrementBy (-9223372036854775808), .incrementBy 9223372036854775807, .decrement,
      .increment] = zero.run overflowing ∧
    zero.run (overflowing ++ overflowing ++ overflowing.map Step.opposite) =
      zero.run overflowing := by
  obtain ⟨shows, -, threaded, takenBack⟩ := tally_shows_wrapped_sum overflowing
  have interleaved : Interleaving [overflowing.take 2, overflowing.drop 2]
      [.decrementBy (-9223372036854775808), .incrementBy 9223372036854775807, .decrement,
        .increment] := by
    apply Interleaving.turn 1 rfl
    apply Interleaving.turn 0 rfl
    apply Interleaving.turn 1 rfl
    apply Interleaving.turn 0 rfl
    exact Interleaving.done (by decide)
  refine ⟨⟨?_, ?_⟩, interleaved, (threaded _ _ rfl interleaved).1,
    takenBack _ _ (List.Perm.refl _)⟩
  · rw [shows]
    decide
  · rw [shows]
    decide

end Triage.Retry.Counter

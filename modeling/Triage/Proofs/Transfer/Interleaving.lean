/-!
# Interleavings

Programs take turns, and each keeps its own order.  Whoever takes the turns, every step of
every program is taken once, so any two interleavings are permutations of each other.
-/

namespace Triage.Transfer

universe u

/-- An order of the steps of some programs in which each program keeps its own order:
at each turn any program that is not over takes its next step. -/
inductive Interleaving {β : Type u} : List (List β) → List β → Prop
  | done {programs : List (List β)} (allDone : ∀ program ∈ programs, program = []) :
      Interleaving programs []
  | turn {programs : List (List β)} (worker : Nat) {step : β} {rest schedule : List β}
      (next : programs[worker]? = some (step :: rest))
      (later : Interleaving (programs.set worker rest) schedule) :
      Interleaving programs (step :: schedule)

theorem flatten_perm_step {β : Type u} {programs : List (List β)} {worker : Nat} {step : β}
    {rest : List β} (next : programs[worker]? = some (step :: rest)) :
    programs.flatten.Perm (step :: (programs.set worker rest).flatten) := by
  induction programs generalizing worker with
  | nil => contradiction
  | cons program programs ih =>
      cases worker with
      | zero =>
          rw [List.getElem?_cons_zero, Option.some.injEq] at next
          rw [next]
          exact List.Perm.refl _
      | succ worker =>
          rw [List.getElem?_cons_succ] at next
          rw [List.set_cons_succ, List.flatten_cons, List.flatten_cons]
          exact ((ih next).append_left program).trans List.perm_middle

/-- An interleaving takes every step of every program once. -/
theorem Interleaving.perm_flatten {β : Type u} {programs : List (List β)}
    {schedule : List β} (order : Interleaving programs schedule) :
    schedule.Perm programs.flatten := by
  induction order with
  | done allDone => rw [List.flatten_eq_nil_iff.mpr allDone]
  | turn worker next _ ih => exact (ih.cons _).trans (flatten_perm_step next).symm

end Triage.Transfer

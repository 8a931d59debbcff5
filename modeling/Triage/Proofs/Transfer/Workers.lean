import Triage.Proofs.Transfer.Finishing
import Triage.Proofs.Transfer.Hashing
import Triage.Proofs.Transfer.Interleaving

/-!
# Racing workers

Each worker records its failures through its own handle and then gives the handle up;
whose turn it is, is left open.  Any two orders of their steps are permutations of
each other, so the result that the owner gets after them is the same up to equality
and hashes equally, and it is the result built from all failures, worker by worker.
-/

namespace Triage.Transfer

open Handles

universe u

/-! ## Workers -/

variable {α : Type u}

namespace Handles

/-- A collector with its owner's handle, and one more handle for each worker. -/
def hire (count : Nat) : List (Operation α) := .create :: List.replicate count (.clone 0)

/-- A worker records its failures through its handle and gives the handle up. -/
def work (handle : Nat) (failures : List α) : List (Operation α) :=
  failures.map (.record handle) ++ [.drop handle]

/-- What the workers do, each through the handle after the owner's and those of the
workers before it. -/
def programs (workers : List (List α)) : List (List (Operation α)) :=
  workers.mapIdx fun worker failures => work (worker + 1) failures

/-- The answer to the owner who finishes after the workers took their turns. -/
def outcome (workers : List (List α)) (schedule : List (Operation α)) : Reply α :=
  ((empty.run (hire workers.length ++ schedule)).1.step (.finish 0)).2.value

/-- The failure that a surviving worker records. -/
def Operation.recorded? : Operation α → Option α
  | .record _ failure => some failure
  | _ => none

theorem work_ne_nil (handle : Nat) (failures : List α) : work handle failures ≠ [] :=
  List.append_ne_nil_of_right_ne_nil _ (List.cons_ne_nil _ _)

theorem filterMap_recorded?_work (handle : Nat) (failures : List α) :
    (work handle failures).filterMap Operation.recorded? = failures := by
  have recorded : (Operation.recorded? ∘ Operation.record handle : α → Option α) = some := rfl
  rw [work, List.filterMap_append, List.filterMap_map, recorded, List.filterMap_some]
  exact List.append_nil failures

/-- Through whichever handles, the workers record their failures. -/
theorem filterMap_recorded?_flatten (workers : List (List α)) (handleOf : Nat → Nat) :
    (workers.mapIdx fun worker => work (handleOf worker)).flatten.filterMap
      Operation.recorded? = workers.flatten := by
  induction workers generalizing handleOf with
  | nil => rfl
  | cons failures workers ih =>
      rw [List.mapIdx_cons, List.flatten_cons, List.flatten_cons, List.filterMap_append,
        filterMap_recorded?_work, ih fun worker => handleOf (worker + 1)]

end Handles

/-! ## The ledger while workers take turns -/

/-- The owner's handle is live, and a worker's handle is live until its program is
over. -/
structure AtWork (programs : List (List (Operation α))) (ledger : Ledger α) : Prop where
  owner : ledger.home? 0 = some 0
  left : ∀ {worker program}, programs[worker]? = some program →
    program = [] ∨ ∃ failures, program = work (worker + 1) failures
  live : ∀ worker, ledger.home? (worker + 1) = some 0 ↔
    ∃ failures, programs[worker]? = some (work (worker + 1) failures)

namespace AtWork

variable {programs : List (List (Operation α))} {ledger : Ledger α} {worker : Nat}

theorem left_set (atWork : AtWork programs ledger) {rest : List (Operation α)}
    (own : rest = [] ∨ ∃ failures, rest = work (worker + 1) failures) {other : Nat}
    {program : List (Operation α)} (entry : (programs.set worker rest)[other]? = some program) :
    program = [] ∨ ∃ failures, program = work (other + 1) failures := by
  by_cases same : worker = other
  · subst same
    rw [List.getElem?_set_self'] at entry
    obtain ⟨-, -, rfl⟩ := Option.map_eq_some_iff.mp entry
    exact own
  · rw [List.getElem?_set_ne same] at entry
    exact atWork.left entry

/-- A worker records its next failure. -/
theorem record (atWork : AtWork programs ledger) {failure : α} {failures : List α}
    (next : programs[worker]? = some (work (worker + 1) (failure :: failures))) :
    AtWork (programs.set worker (work (worker + 1) failures)) (ledger.enter 0 failure) where
  owner := atWork.owner
  left := atWork.left_set (.inr ⟨failures, rfl⟩)
  live := by
    intro other
    by_cases same : worker = other
    · subst same
      rw [List.getElem?_set_self', next]
      exact iff_of_true ((atWork.live worker).mpr ⟨_, next⟩) ⟨failures, rfl⟩
    · rw [List.getElem?_set_ne same]
      exact atWork.live other

/-- A worker that is done gives its handle up. -/
theorem leave (atWork : AtWork programs ledger)
    (next : programs[worker]? = some (work (worker + 1) [])) :
    AtWork (programs.set worker []) (ledger.close (worker + 1)) where
  owner := by
    rw [Ledger.home?_close, if_neg (Nat.succ_ne_zero worker).symm]
    exact atWork.owner
  left := atWork.left_set (.inl rfl)
  live := by
    intro other
    rw [Ledger.home?_close]
    by_cases same : worker = other
    · subst same
      rw [if_pos rfl, List.getElem?_set_self', next]
      apply iff_of_false nofun
      rintro ⟨failures, entry⟩
      exact work_ne_nil _ _ (Option.some.inj entry).symm
    · have different : other + 1 ≠ worker + 1 := by omega
      rw [if_neg different, List.getElem?_set_ne same]
      exact atWork.live other

/-- A turn of a worker keeps the others at work, and what it records is recorded. -/
theorem after (atWork : AtWork programs ledger) {step : Operation α}
    {rest : List (Operation α)} (next : programs[worker]? = some (step :: rest)) :
    AtWork (programs.set worker rest) (ledger.after step) ∧
      (ledger.after step).failuresOf 0 = ledger.failuresOf 0 ++ step.recorded?.toList := by
  obtain allDone | ⟨failures, program⟩ := atWork.left next
  · contradiction
  · rw [program] at next
    have home : ledger.home? (worker + 1) = some 0 := (atWork.live worker).mpr ⟨failures, next⟩
    -- What is left to record tells whether the turn is a record or the drop.
    cases failures with
    | nil =>
        obtain ⟨rfl, rfl⟩ := List.cons.inj program
        exact ⟨atWork.leave next, (List.append_nil _).symm⟩
    | cons failure failures =>
        obtain ⟨rfl, rfl⟩ := List.cons.inj program
        rw [Ledger.after, home, Option.elim_some]
        exact ⟨atWork.record next, ledger.failuresOf_enter 0 failure 0⟩

/-- When the programs are over, only the owner is left. -/
theorem liveTo_eq (atWork : AtWork programs ledger) (allDone : ∀ program ∈ programs, program = []) :
    ledger.liveTo 0 = {0} := by
  ext handle
  rw [Ledger.mem_liveTo, Finset.mem_singleton]
  cases handle with
  | zero => exact iff_of_true atWork.owner rfl
  | succ worker =>
      apply iff_of_false _ (Nat.succ_ne_zero worker)
      intro home
      obtain ⟨failures, entry⟩ := (atWork.live worker).mp home
      exact work_ne_nil _ _ (allDone _ (List.mem_of_getElem? entry))

/-- After all turns only the owner is left, and the failures are those of the turns in
their order. -/
theorem afterAll (atWork : AtWork programs ledger) {schedule : List (Operation α)}
    (order : Interleaving programs schedule) :
    (ledger.afterAll schedule).liveTo 0 = {0} ∧
      (ledger.afterAll schedule).failuresOf 0 =
        ledger.failuresOf 0 ++ schedule.filterMap Operation.recorded? := by
  induction order generalizing ledger with
  | done allDone => exact ⟨atWork.liveTo_eq allDone, (List.append_nil _).symm⟩
  | @turn _ worker step _ _ next _ ih =>
      obtain ⟨later, recorded⟩ := atWork.after next
      obtain ⟨live, failures⟩ := ih later
      refine ⟨live, ?_⟩
      rw [Ledger.afterAll_cons, failures, recorded, List.append_assoc]
      cases turn : step.recorded? <;> simp [turn]

end AtWork

/-! ## Results -/

theorem Ledger.afterAll_clones {ledger : Ledger α} {place : Nat}
    (home : ledger.home? 0 = some place) (count : Nat) :
    ledger.afterAll (List.replicate count (.clone 0)) =
      { ledger with homes := ledger.homes ++ List.replicate count (some place) } := by
  induction count generalizing ledger with
  | zero => rw [List.replicate_zero, List.replicate_zero, List.append_nil, afterAll_nil]
  | succ count ih =>
      have stays : (ledger.openHandle place).home? 0 = some place := by
        rw [home?, Option.join_eq_some_iff] at home ⊢
        have inside := (List.getElem?_eq_some_iff.mp home).1
        rw [openHandle, List.getElem?_append_left inside, home]
      rw [List.replicate_succ, afterAll_cons, Ledger.after, home, Option.elim_some, ih stays,
        openHandle, List.append_assoc]
      rfl

/-- The workers' handles come after the owner's. -/
theorem Ledger.ofRun_hire (count : Nat) :
    Ledger.ofRun (hire count : List (Operation α)) =
      ⟨1, List.replicate (count + 1) (some 0), []⟩ := by
  rw [ofRun, hire, afterAll_cons, afterAll_clones rfl]
  rfl

theorem atWork_hire (workers : List (List α)) :
    AtWork (Handles.programs workers) (Ledger.ofRun (hire workers.length)) where
  owner := by rw [Ledger.ofRun_hire]; rfl
  left := by
    intro worker program entry
    rw [Handles.programs, List.getElem?_mapIdx] at entry
    obtain ⟨failures, -, rfl⟩ := Option.map_eq_some_iff.mp entry
    exact .inr ⟨failures, rfl⟩
  live := by
    intro worker
    rw [Ledger.ofRun_hire, Ledger.home?, List.getElem?_replicate, Handles.programs,
      List.getElem?_mapIdx]
    by_cases hired : worker < workers.length
    · rw [if_pos (Nat.succ_lt_succ hired), List.getElem?_eq_getElem hired]
      exact iff_of_true rfl ⟨_, rfl⟩
    · rw [if_neg (by omega), List.getElem?_eq_none (Nat.le_of_not_lt hired)]
      simp

/-- The owner gets the failures of all turns in their order. -/
theorem outcome_eq {workers : List (List α)} {schedule : List (Operation α)}
    (order : Interleaving (Handles.programs workers) schedule) :
    outcome workers schedule = .finished ⟨schedule.filterMap Operation.recorded?⟩ := by
  obtain ⟨live, failures⟩ := (atWork_hire workers).afterAll order
  have last := (Represents.start_empty.run (hire workers.length ++ schedule)).2
  rw [Ledger.afterAll_append, ← Ledger.ofRun] at last
  have owner : 0 ∈ ((Ledger.ofRun (hire workers.length)).afterAll schedule).liveTo 0 := by
    rw [live]
    exact Finset.mem_singleton_self 0
  rw [outcome, last.answer_finish (Ledger.mem_liveTo.mp owner), live, failures,
    Ledger.ofRun_hire]
  rfl

/-- The owner gets a permutation of what the workers recorded. -/
theorem exists_outcome_eq {workers : List (List α)} {schedule : List (Operation α)}
    (order : Interleaving (Handles.programs workers) schedule) :
    ∃ result, outcome workers schedule = .finished result ∧
      result.failures.Perm (workers.flatten.foldl Completed.add Completed.empty).failures := by
  refine ⟨_, outcome_eq order, ?_⟩
  have all := filterMap_recorded?_flatten workers (· + 1)
  rw [Completed.foldl_add, Completed.empty, List.nil_append, ← all]
  exact order.perm_flatten.filterMap _

/-- However the workers take turns, the owner who finishes after them gets a result,
all these results are equal and hash equally, and they are equal to the one built from
what the workers recorded, one worker after the other. -/
theorem racing_workers_agree [BEq α] [EquivBEq α] (workers : List (List α))
    {firstSchedule secondSchedule : List (Operation α)}
    (firstOrder : Interleaving (Handles.programs workers) firstSchedule)
    (secondOrder : Interleaving (Handles.programs workers) secondSchedule) :
    let built := workers.flatten.foldl Completed.add Completed.empty
    ∃ first second, outcome workers firstSchedule = .finished first ∧
      outcome workers secondSchedule = .finished second ∧
      (first == second) = true ∧ (first == built) = true ∧ (second == built) = true ∧
      ∀ elementHash, Completed.Respects elementHash →
        Completed.hashInput elementHash first = Completed.hashInput elementHash second ∧
          Completed.hashInput elementHash first = Completed.hashInput elementHash built := by
  intro built
  obtain ⟨first, firstFinished, firstPerm⟩ := exists_outcome_eq firstOrder
  obtain ⟨second, secondFinished, secondPerm⟩ := exists_outcome_eq secondOrder
  have firstBuilt : (first == built) = true := Completed.beq_of_perm firstPerm
  have secondBuilt : (second == built) = true := Completed.beq_of_perm secondPerm
  have same : (first == second) = true := BEq.trans firstBuilt (BEq.symm secondBuilt)
  exact ⟨first, second, firstFinished, secondFinished, same, firstBuilt, secondBuilt,
    fun _ respects => ⟨Completed.hashInput_eq_of_beq respects same,
      Completed.hashInput_eq_of_beq respects firstBuilt⟩⟩

/-- A worker with two failures and one with a single failure. -/
def twoWorkers : List (List Nat) := [[5, 7], [8]]

/-- The first worker is done before the second one begins. -/
def oneByOne : List (Operation Nat) :=
  [.record 1 5, .record 1 7, .drop 1, .record 2 8, .drop 2]

/-- The second worker is done between the failures of the first. -/
def inBetween : List (Operation Nat) :=
  [.record 1 5, .record 2 8, .drop 2, .record 1 7, .drop 1]

theorem racing_workers_agree_twoWorkers :
    Interleaving (Handles.programs twoWorkers) oneByOne ∧
      Interleaving (Handles.programs twoWorkers) inBetween ∧
      ∃ first second, outcome twoWorkers oneByOne = .finished first ∧
        outcome twoWorkers inBetween = .finished second ∧
        first.failures = [5, 7, 8] ∧ second.failures = [5, 8, 7] ∧ (first == second) = true := by
  have allDone : ∀ program ∈ ([[], []] : List (List (Operation Nat))), program = [] := by simp
  have firstOrder : Interleaving (Handles.programs twoWorkers) oneByOne :=
    .turn 0 rfl (.turn 0 rfl (.turn 0 rfl (.turn 1 rfl (.turn 1 rfl (.done allDone)))))
  have secondOrder : Interleaving (Handles.programs twoWorkers) inBetween :=
    .turn 0 rfl (.turn 1 rfl (.turn 1 rfl (.turn 0 rfl (.turn 0 rfl (.done allDone)))))
  obtain ⟨first, second, firstFinished, secondFinished, same, -⟩ :=
    racing_workers_agree twoWorkers firstOrder secondOrder
  refine ⟨firstOrder, secondOrder, first, second, firstFinished, secondFinished, ?_, ?_, same⟩
  · cases firstFinished
    rfl
  · cases secondFinished
    rfl

end Triage.Transfer

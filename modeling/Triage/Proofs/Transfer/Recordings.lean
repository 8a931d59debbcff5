import Triage.Proofs.Transfer.Ledger

/-!
# What runs on shared collectors answer

Every operation keeps the handles and the ledger of their run together: the same
collectors, the same failures in each, and as many owners as live handles.  So each
run answers what its ledger says: counts and results are those of the failures
recorded so far, on this collector and on no other, and the death of a worker right
after it recorded a failure leaves no trace in them.
-/

namespace Triage.Transfer

open Handles

universe u

variable {α : Type u}

/-- A collector shows what the ledger says about its place. -/
structure Ledger.Shows (ledger : Ledger α) (place : Nat) (shared : Shared α) : Prop where
  failures_eq : shared.collector.failures = ledger.failuresOf place
  owners_eq : shared.owners = (ledger.liveTo place).card

/-- The handles show what the ledger says, and it says nothing about collectors that
do not exist. -/
structure Represents (handles : Handles α) (ledger : Ledger α) : Prop where
  targets_eq : handles.targets = ledger.homes
  length_eq : handles.shared.length = ledger.collectors
  shows : ∀ {place shared}, handles.shared[place]? = some shared → ledger.Shows place shared
  unheld : ∀ {place}, ledger.collectors ≤ place → ledger.liveTo place = ∅
  unrecorded : ∀ {place}, ledger.collectors ≤ place → ledger.failuresOf place = []

/-- The handle that an operation goes through. -/
def Handles.Operation.handle? : Operation α → Option Nat
  | .create => none
  | .clone handle | .record handle _ | .recordAndDie handle _ => some handle
  | .count handle | .drop handle | .finish handle => some handle

namespace Represents

variable {handles : Handles α} {ledger : Ledger α} {handle place : Nat} {shared : Shared α}

theorem start_empty : Represents (Handles.empty : Handles α) Ledger.empty where
  targets_eq := rfl
  length_eq := rfl
  shows found := by simp [Handles.empty] at found
  unheld _ := rfl
  unrecorded _ := rfl

/-! ## Looking handles up -/

theorem target?_eq (represents : Represents handles ledger) (handle : Nat) :
    handles.target? handle = ledger.home? handle := by
  rw [target?, Ledger.home?, represents.targets_eq]

theorem liveTo_eq (represents : Represents handles ledger) (place : Nat) :
    handles.liveTo place = ledger.liveTo place := by
  rw [Handles.liveTo, Ledger.liveTo, represents.targets_eq]

theorem home_lt (represents : Represents handles ledger)
    (home : ledger.home? handle = some place) : place < ledger.collectors := by
  by_contra beyond
  have held : handle ∈ ledger.liveTo place := Ledger.mem_liveTo.mpr home
  rw [represents.unheld (Nat.le_of_not_lt beyond)] at held
  exact Finset.notMem_empty handle held

/-- The collector of a live handle is found, as the ledger says it is. -/
theorem exists_find? (represents : Represents handles ledger)
    (home : ledger.home? handle = some place) :
    ∃ shared, handles.find? handle = some (place, shared) ∧ ledger.Shows place shared := by
  have inside : place < handles.shared.length := by
    rw [represents.length_eq]
    exact represents.home_lt home
  have found : handles.shared[place]? = some handles.shared[place] :=
    List.getElem?_eq_getElem inside
  refine ⟨handles.shared[place], find?_eq_some_iff.mpr ⟨?_, found⟩, represents.shows found⟩
  rw [represents.target?_eq, home]

theorem find?_eq_none (represents : Represents handles ledger)
    (home : ledger.home? handle = none) : handles.find? handle = none := by
  rw [find?, represents.target?_eq, home, Option.bind_none]

/-! ## Single operations -/

theorem create (represents : Represents handles ledger) :
    Represents handles.create (ledger.after .create) where
  targets_eq := by
    rw [Handles.create, represents.targets_eq, represents.length_eq]
    rfl
  length_eq := by
    simp [Handles.create, represents.length_eq, Ledger.after]
  shows := by
    intro place shared found
    rw [Handles.create, List.getElem?_append, represents.length_eq] at found
    split at found
    · rename_i old
      obtain ⟨failures, owners⟩ := represents.shows found
      refine ⟨failures, ?_⟩
      rw [owners, Ledger.liveTo_after_create, if_neg (Nat.ne_of_gt old)]
    · rename_i new
      obtain ⟨rfl, rfl⟩ : ⟨Collector.fresh, 1⟩ = shared ∧ ledger.collectors = place := by
        rw [List.getElem?_singleton] at found
        split at found
        · exact ⟨Option.some.inj found, by omega⟩
        · contradiction
      refine ⟨(represents.unrecorded (Nat.le_refl _)).symm, ?_⟩
      rw [Ledger.liveTo_after_create, if_pos rfl, represents.unheld (Nat.le_refl _)]
      rfl
  unheld := by
    intro place beyond
    have later : ledger.collectors < place := beyond
    rw [Ledger.liveTo_after_create, if_neg (Nat.ne_of_lt later)]
    exact represents.unheld (Nat.le_of_lt later)
  unrecorded := by
    intro place beyond
    exact represents.unrecorded (Nat.le_of_lt beyond)

/-- Only one collector changes, in the handles and in the ledger. -/
theorem replace {next : Ledger α} {targets : List (Option Nat)}
    (represents : Represents handles ledger) (inside : place < ledger.collectors)
    (targets_eq : targets = next.homes) (collectors_eq : next.collectors = ledger.collectors)
    (own : next.Shows place shared)
    (others : ∀ {other}, place ≠ other →
      next.liveTo other = ledger.liveTo other ∧ next.failuresOf other = ledger.failuresOf other) :
    Represents ⟨handles.shared.set place shared, targets⟩ next where
  targets_eq := targets_eq
  length_eq := by
    rw [List.length_set, represents.length_eq, collectors_eq]
  shows := by
    intro other entry found
    rw [List.getElem?_set] at found
    split at found
    · rename_i same
      subst same
      rw [if_pos (represents.length_eq ▸ inside)] at found
      rw [← Option.some.inj found]
      exact own
    · rename_i different
      obtain ⟨failures, owners⟩ := represents.shows found
      obtain ⟨sameHolders, sameFailures⟩ := others different
      exact ⟨failures.trans sameFailures.symm, owners.trans (congrArg _ sameHolders.symm)⟩
  unheld := by
    intro other beyond
    rw [collectors_eq] at beyond
    rw [(others (Nat.ne_of_lt (Nat.lt_of_lt_of_le inside beyond))).1]
    exact represents.unheld beyond
  unrecorded := by
    intro other beyond
    rw [collectors_eq] at beyond
    rw [(others (Nat.ne_of_lt (Nat.lt_of_lt_of_le inside beyond))).2]
    exact represents.unrecorded beyond

theorem addHandle (represents : Represents handles ledger)
    (home : ledger.home? handle = some place) (shown : ledger.Shows place shared) :
    Represents (handles.addHandle place shared) (ledger.openHandle place) := by
  refine represents.replace (represents.home_lt home) ?_ rfl ?_ ?_
  · rw [represents.targets_eq]
    rfl
  · refine ⟨shown.failures_eq, ?_⟩
    rw [Ledger.liveTo_openHandle, if_pos rfl,
      Finset.card_insert_of_notMem (ledger.length_notMem_liveTo place)]
    exact congrArg (· + 1) shown.owners_eq
  · intro other different
    rw [Ledger.liveTo_openHandle, if_neg different]
    exact ⟨rfl, rfl⟩

theorem record (represents : Represents handles ledger)
    (home : ledger.home? handle = some place) (shown : ledger.Shows place shared)
    {collector : Collector α} {failure : α}
    (recorded : collector.failures = shared.collector.failures ++ [failure]) :
    Represents (handles.setShared place { shared with collector := collector })
      (ledger.enter place failure) := by
  refine represents.replace (represents.home_lt home) represents.targets_eq rfl ?_ ?_
  · refine ⟨?_, shown.owners_eq⟩
    rw [Ledger.failuresOf_enter, if_pos rfl, ← shown.failures_eq]
    exact recorded
  · intro other different
    rw [Ledger.failuresOf_enter, if_neg different, List.append_nil]
    exact ⟨rfl, rfl⟩

theorem release (represents : Represents handles ledger)
    (home : ledger.home? handle = some place) (shown : ledger.Shows place shared) :
    Represents (handles.release handle place shared) (ledger.close handle) := by
  refine represents.replace (represents.home_lt home) ?_ rfl ?_ ?_
  · rw [represents.targets_eq]
    rfl
  · refine ⟨shown.failures_eq, ?_⟩
    rw [Ledger.liveTo_close, Finset.card_erase_of_mem (Ledger.mem_liveTo.mpr home)]
    exact congrArg (· - 1) shown.owners_eq
  · intro other different
    have elsewhere : handle ∉ ledger.liveTo other := by
      rw [Ledger.mem_liveTo, home]
      exact fun same => different (Option.some.inj same)
    rw [Ledger.liveTo_close, Finset.erase_eq_of_notMem elsewhere]
    exact ⟨rfl, rfl⟩

/-! ## Runs -/

/-- The answer to the owner who finishes depends on the owners that are left. -/
theorem finish_eq_departure (shown : ledger.Shows place shared)
    (home : ledger.home? handle = some place) :
    (if shared.owners = 1 then Reply.finished shared.collector.finish
      else .stillShared (shared.owners - 1)) =
      Ledger.departure ⟨ledger.failuresOf place⟩ ((ledger.liveTo place).erase handle).card := by
  have held : handle ∈ ledger.liveTo place := Ledger.mem_liveTo.mpr home
  have owners : shared.owners = ((ledger.liveTo place).erase handle).card + 1 := by
    rw [shown.owners_eq, Finset.card_erase_add_one held]
  rw [owners, Collector.finish_eq, shown.failures_eq]
  cases ((ledger.liveTo place).erase handle).card with
  | zero => rfl
  | succ others => rfl

/-- Through a handle that is gone nothing happens. -/
theorem step_dead (represents : Represents handles ledger) {operation : Operation α}
    (through : operation.handle? = some handle) (dead : ledger.home? handle = none) :
    (handles.step operation).2.value = ledger.answer operation ∧
      Represents (handles.step operation).1 (ledger.after operation) := by
  have lost := represents.find?_eq_none dead
  have kept := Ledger.close_of_home?_eq_none dead
  cases operation <;>
    simp_all [Operation.handle?, Handles.step, Ledger.answer, Ledger.about, Ledger.after]

/-- Through a live handle the collector answers, and the ledger follows it. -/
theorem step_live (represents : Represents handles ledger) {operation : Operation α}
    (through : operation.handle? = some handle) (home : ledger.home? handle = some place) :
    (handles.step operation).2.value = ledger.answer operation ∧
      Represents (handles.step operation).1 (ledger.after operation) := by
  obtain ⟨shared, found, shown⟩ := represents.exists_find? home
  have failures_eq := shown.failures_eq
  cases operation <;> cases through <;>
    simp only [Handles.step, found, Ledger.answer, Ledger.about, Ledger.after, home,
      Option.elim_some]
  case clone.refl =>
    refine ⟨?_, represents.addHandle home shown⟩
    rw [represents.targets_eq]
  case record.refl failure =>
    exact ⟨by simp [failures_eq], represents.record home shown (by simp)⟩
  case recordAndDie.refl failure =>
    exact ⟨by simp [failures_eq], represents.record home shown (by simp)⟩
  case count.refl => exact ⟨by simp [failures_eq], represents⟩
  case drop.refl => exact ⟨trivial, represents.release home shown⟩
  case finish.refl =>
    rw [← finish_eq_departure shown home]
    split <;> exact ⟨rfl, represents.release home shown⟩

/-- A step answers what the ledger says, and the ledger follows it. -/
theorem step (represents : Represents handles ledger) (operation : Operation α) :
    (handles.step operation).2.value = ledger.answer operation ∧
      Represents (handles.step operation).1 (ledger.after operation) := by
  cases through : operation.handle? with
  | none =>
      cases operation with
      | create =>
          refine ⟨?_, represents.create⟩
          simp only [Handles.step, Ledger.answer, represents.targets_eq]
      | _ => contradiction
  | some handle =>
      cases home : ledger.home? handle with
      | none => exact represents.step_dead through home
      | some place => exact represents.step_live through home

/-- A run answers what its ledger says. -/
theorem run (represents : Represents handles ledger) (operations : List (Operation α)) :
    (handles.run operations).2.map Log.Logged.value = ledger.answers operations ∧
      Represents (handles.run operations).1 (ledger.afterAll operations) := by
  induction operations generalizing handles ledger with
  | nil => exact ⟨rfl, represents⟩
  | cons operation later ih =>
      obtain ⟨answer, next⟩ := represents.step operation
      obtain ⟨answers, last⟩ := ih next
      refine ⟨?_, last⟩
      rw [run_cons, List.map_cons, answer, answers]
      rfl

end Represents

/-! ## Answers of whole runs -/

/-- The ledger of a run from the very beginning. -/
def Ledger.ofRun (operations : List (Operation α)) : Ledger α := Ledger.empty.afterAll operations

namespace Handles

/-- What a run answers that begins without any collector. -/
def answers (operations : List (Operation α)) : List (Reply α) :=
  (empty.run operations).2.map Log.Logged.value

theorem answers_eq (operations : List (Operation α)) :
    answers operations = Ledger.empty.answers operations :=
  (Represents.start_empty.run operations).1

/-- The answer in the middle of a run is read off the ledger of what came before. -/
theorem answers_getElem? (before : List (Operation α)) (operation : Operation α)
    (later : List (Operation α)) :
    (answers (before ++ operation :: later))[before.length]? =
      some ((Ledger.ofRun before).answer operation) := by
  rw [answers_eq, Ledger.answers_append, Ledger.answers,
    ← Ledger.empty.length_answers before, List.getElem?_append_right (Nat.le_refl _),
    Nat.sub_self]
  rfl

/-- The answers to the rest of a run depend on the ledger at that point only. -/
theorem drop_answers (before : List (Operation α)) (operation : Operation α)
    (later : List (Operation α)) :
    (answers (before ++ operation :: later)).drop (before.length + 1) =
      ((Ledger.ofRun before).after operation).answers later := by
  rw [answers_eq, Ledger.answers_append, ← Ledger.empty.length_answers before,
    List.drop_length_add_append]
  rfl

theorem target?_run (operations : List (Operation α)) (handle : Nat) :
    (empty.run operations).1.target? handle = (Ledger.ofRun operations).home? handle :=
  (Represents.start_empty.run operations).2.target?_eq handle

/-- Wherever a run is looked at, a count through a live handle is the number of
failures recorded so far on its collector, and a result is the list of exactly these
failures in the order of recording.  Whether a worker survived its last record changes
no answer after it. -/
theorem counts_and_results_match_recordings (before later : List (Operation α)) :
    (∀ handle place, (empty.run before).1.target? handle = some place →
      (Ledger.ofRun before).home? handle = some place ∧
      (answers (before ++ .count handle :: later))[before.length]? =
        some (.count ((Ledger.ofRun before).failuresOf place).length)) ∧
    (∀ handle result,
      (answers (before ++ .finish handle :: later))[before.length]? =
        some (.finished result) →
      ∃ place, (Ledger.ofRun before).home? handle = some place ∧
        result.failures = (Ledger.ofRun before).failuresOf place) ∧
    (∀ handle failure,
      (answers (before ++ .recordAndDie handle failure :: later)).drop (before.length + 1) =
        (answers (before ++ .record handle failure :: later)).drop (before.length + 1)) := by
  refine ⟨?_, ?_, ?_⟩
  · intro handle place live
    have home : (Ledger.ofRun before).home? handle = some place :=
      target?_run before handle ▸ live
    refine ⟨home, ?_⟩
    rw [answers_getElem?, Ledger.answer, Ledger.about, home, Option.elim_some]
  · intro handle result finished
    rw [answers_getElem?, Option.some.injEq, Ledger.answer, Ledger.about] at finished
    cases home : (Ledger.ofRun before).home? handle with
    | none =>
        rw [home] at finished
        contradiction
    | some place =>
        rw [home, Option.elim_some] at finished
        obtain ⟨-, rfl⟩ := Ledger.departure_eq_finished_iff.mp finished
        exact ⟨place, rfl, rfl⟩
  · intro handle failure
    rw [drop_answers, drop_answers]
    rfl

/-- Two collectors, the first with two handles; the worker behind the second handle
dies, and its failure comes between two that were recorded elsewhere and later. -/
def twoCollectors : List (Operation Nat) :=
  [.create, .create, .clone 0, .record 1 5, .recordAndDie 2 7, .record 0 7, .drop 2]

theorem counts_and_results_match_recordings_twoCollectors :
    (empty.run twoCollectors).1.target? 0 = some 0 ∧
      (answers (twoCollectors ++ [.count 0]))[7]? = some (.count 2) ∧
      (answers (twoCollectors ++ [.finish 0]))[7]? = some (.finished ⟨[7, 7]⟩) ∧
      ∃ place, (Ledger.ofRun twoCollectors).home? 0 = some place ∧
        [7, 7] = (Ledger.ofRun twoCollectors).failuresOf place := by
  obtain ⟨counts, results, -⟩ := counts_and_results_match_recordings twoCollectors []
  have finished :
      (answers (twoCollectors ++ [.finish 0]))[7]? = some (.finished ⟨[7, 7]⟩) := rfl
  exact ⟨rfl, (counts 0 0 rfl).2, finished, results 0 ⟨[7, 7]⟩ finished⟩

end Handles

end Triage.Transfer

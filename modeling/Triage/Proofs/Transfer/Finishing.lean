import Mathlib.Data.Finset.SDiff
import Triage.Proofs.Transfer.Recordings

/-!
# Finishing through handles

Finishing through a live handle gives the handle up.  It takes the collector apart
when no other live handle names it, and otherwise says how many there are and leaves
everything else as it was.  Nobody can reach a collector that was taken apart, so
this happens once and nothing is recorded on it afterwards, and the owners who leave
one after the other count down to it.
-/

namespace Triage.Transfer

open Handles

universe u

variable {α : Type u}

/-! ## Handles that end -/

/-- The handles that an operation gives up. -/
def Handles.Operation.ended : Operation α → Finset Nat
  | .drop handle | .finish handle => {handle}
  | .create | .clone _ | .record _ _ | .recordAndDie _ _ | .count _ => ∅

theorem Handles.Operation.mem_ended_iff {operation : Operation α} {handle : Nat} :
    handle ∈ operation.ended ↔ operation = .drop handle ∨ operation = .finish handle := by
  cases operation <;> simp [ended, eq_comm]

/-- The answer is a result. -/
def Handles.Reply.isFinished : Reply α → Bool
  | .finished _ => true
  | _ => false

namespace Ledger

variable {ledger : Ledger α} {place : Nat} {operation : Operation α}

theorem collectors_le_after (ledger : Ledger α) (operation : Operation α) :
    ledger.collectors ≤ (ledger.after operation).collectors := by
  cases operation with
  | create => exact Nat.le_succ _
  | count => exact Nat.le_refl _
  | drop | finish => exact Nat.le_refl _
  | clone handle | record handle | recordAndDie handle =>
      rw [after]
      cases ledger.home? handle <;> exact Nat.le_refl _

theorem collectors_le_afterAll (ledger : Ledger α) (operations : List (Operation α)) :
    ledger.collectors ≤ (ledger.afterAll operations).collectors := by
  induction operations generalizing ledger with
  | nil => exact Nat.le_refl _
  | cons operation later ih =>
      exact Nat.le_trans (ledger.collectors_le_after operation) (ih _)

/-- Only new handles and handles that end change who is live. -/
theorem liveTo_after (known : place < ledger.collectors)
    (uncloned : ∀ handle, operation = .clone handle → ledger.home? handle ≠ some place) :
    (ledger.after operation).liveTo place = ledger.liveTo place \ operation.ended := by
  cases operation with
  | create =>
      rw [liveTo_after_create, if_neg (Nat.ne_of_gt known)]
      exact (Finset.sdiff_empty).symm
  | clone handle =>
      have elsewhere := uncloned handle rfl
      rw [after]
      cases home : ledger.home? handle with
      | none => exact (Finset.sdiff_empty).symm
      | some other =>
          rw [home, ne_eq, Option.some.injEq] at elsewhere
          rw [Option.elim_some, liveTo_openHandle, if_neg elsewhere]
          exact (Finset.sdiff_empty).symm
  | record handle failure | recordAndDie handle failure =>
      rw [after]
      cases ledger.home? handle <;> exact (Finset.sdiff_empty).symm
  | count => exact (Finset.sdiff_empty).symm
  | drop handle | finish handle =>
      rw [after, liveTo_close]
      exact (Finset.sdiff_singleton_eq_erase _ _).symm

/-- Handles that are neither cloned nor dropped stay so, and only finishing ends them. -/
theorem liveTo_after_of_kept (known : place < ledger.collectors) {later : List (Operation α)}
    (kept : ∀ handle ∈ ledger.liveTo place,
      .clone handle ∉ operation :: later ∧ .drop handle ∉ operation :: later) :
    (ledger.after operation).liveTo place = ledger.liveTo place \ operation.ended ∧
      ∀ handle ∈ (ledger.after operation).liveTo place,
        .clone handle ∉ later ∧ .drop handle ∉ later := by
  have live : (ledger.after operation).liveTo place = ledger.liveTo place \ operation.ended := by
    apply liveTo_after known
    rintro handle rfl home
    exact (kept handle (mem_liveTo.mpr home)).1 List.mem_cons_self
  refine ⟨live, ?_⟩
  intro handle held
  rw [live, Finset.mem_sdiff] at held
  obtain ⟨notCloned, notDropped⟩ := kept handle held.1
  exact ⟨fun cloned => notCloned (List.mem_cons_of_mem _ cloned),
    fun dropped => notDropped (List.mem_cons_of_mem _ dropped)⟩

/-! ## Closed collectors -/

/-- A collector to which no live handle is left. -/
structure Closed (ledger : Ledger α) (place : Nat) : Prop where
  known : place < ledger.collectors
  unheld : ledger.liveTo place = ∅

theorem Closed.home?_ne (closed : ledger.Closed place) (handle : Nat) :
    ledger.home? handle ≠ some place := by
  intro home
  have held : handle ∈ ledger.liveTo place := mem_liveTo.mpr home
  rw [closed.unheld] at held
  exact Finset.notMem_empty handle held

theorem Closed.after (closed : ledger.Closed place) (operation : Operation α) :
    (ledger.after operation).Closed place where
  known := Nat.lt_of_lt_of_le closed.known (ledger.collectors_le_after operation)
  unheld := by
    rw [liveTo_after closed.known fun handle _ => closed.home?_ne handle, closed.unheld,
      Finset.empty_sdiff]

/-- Nothing is recorded on a closed collector. -/
theorem Closed.failuresOf_after (closed : ledger.Closed place) (operation : Operation α) :
    (ledger.after operation).failuresOf place = ledger.failuresOf place := by
  cases operation with
  | create | count | drop | finish => rfl
  | clone handle =>
      rw [Ledger.after]
      cases ledger.home? handle <;> rfl
  | record handle failure | recordAndDie handle failure =>
      have elsewhere := closed.home?_ne handle
      rw [Ledger.after]
      cases home : ledger.home? handle with
      | none => rfl
      | some other =>
          rw [home, ne_eq, Option.some.injEq] at elsewhere
          rw [Option.elim_some, failuresOf_enter, if_neg elsewhere, List.append_nil]

theorem Closed.afterAll (closed : ledger.Closed place) (operations : List (Operation α)) :
    (ledger.afterAll operations).Closed place ∧
      (ledger.afterAll operations).failuresOf place = ledger.failuresOf place := by
  induction operations generalizing ledger with
  | nil => exact ⟨closed, rfl⟩
  | cons operation later ih =>
      obtain ⟨stays, failures⟩ := ih (closed.after operation)
      exact ⟨stays, failures.trans (closed.failuresOf_after operation)⟩

/-- Who leaves as the last one closes the collector. -/
theorem closed_close {handle : Nat} (known : place < ledger.collectors)
    (last : (ledger.liveTo place).erase handle = ∅) : (ledger.close handle).Closed place where
  known := known
  unheld := by rw [liveTo_close, last]

theorem departure_of_ne_zero {result : Completed α} {others : Nat} (shared : others ≠ 0) :
    departure result others = .stillShared others := by
  cases others with
  | zero => contradiction
  | succ others => rfl

theorem departure_congr {first second : Completed α} {others : Nat}
    (same : others = 0 → first = second) : departure first others = departure second others := by
  cases others with
  | zero => rw [same rfl]
  | succ others => rfl

end Ledger

/-! ## Answers to those who finish -/

namespace Handles

/-- A state that a run can reach. -/
def Reachable (handles : Handles α) : Prop := ∃ operations, (empty.run operations).1 = handles

/-- The collector at a place. -/
def collector? (handles : Handles α) (place : Nat) : Option (Collector α) :=
  (handles.shared[place]?).map Shared.collector

/-- The answer to one who finishes through a live handle to the collector. -/
def ending? (handles : Handles α) (place : Nat) : Operation α → Option (Reply α)
  | .finish handle =>
      if handles.target? handle = some place then
        some (handles.step (.finish handle)).2.value
      else
        none
  | _ => none

/-- The answers of a run to those who finish through live handles to the collector. -/
def endings (handles : Handles α) (place : Nat) : List (Operation α) → List (Reply α)
  | [] => []
  | operation :: later =>
      (handles.ending? place operation).toList ++
        (handles.step operation).1.endings place later

theorem erase_liveTo_eq_empty_iff {handles : Handles α} {handle place : Nat} :
    (handles.liveTo place).erase handle = ∅ ↔
      ∀ other, handles.target? other = some place → other = handle := by
  simp only [Finset.eq_empty_iff_forall_notMem, Finset.mem_erase, mem_liveTo, not_and']
  exact forall₂_congr fun _ _ => not_not

/-- From one state to the next only one handle to the collector at a place is gone. -/
structure LosesOnly (handles next : Handles α) (handle place : Nat) : Prop where
  gone : next.target? handle = none
  sameTargets : ∀ other, other ≠ handle → next.target? other = handles.target? other
  sameCollectors : ∀ other, next.collector? other = handles.collector? other
  sameElsewhere : ∀ other, other ≠ place → next.shared[other]? = handles.shared[other]?

theorem collector?_release {handles : Handles α} {handle place : Nat} {shared : Shared α}
    (found : handles.find? handle = some (place, shared)) (other : Nat) :
    (handles.release handle place shared).collector? other = handles.collector? other := by
  obtain ⟨-, present⟩ := find?_eq_some_iff.mp found
  have inside : place < handles.shared.length := (List.getElem?_eq_some_iff.mp present).1
  rw [collector?, collector?, release, List.getElem?_set]
  by_cases same : place = other
  · subst same
    rw [if_pos rfl, if_pos inside, present]
    rfl
  · rw [if_neg same]

theorem losesOnly_release {handles : Handles α} {handle place : Nat} {shared : Shared α}
    (found : handles.find? handle = some (place, shared)) :
    LosesOnly handles (handles.release handle place shared) handle place where
  gone := by
    rw [target?, release, List.getElem?_set, if_pos rfl]
    split <;> rfl
  sameTargets := by
    intro other different
    rw [target?, target?, release, List.getElem?_set_ne different.symm]
  sameCollectors := collector?_release found
  sameElsewhere := by
    intro other different
    rw [release, List.getElem?_set_ne different.symm]

theorem step_finish_fst {handles : Handles α} {handle place : Nat} {shared : Shared α}
    (found : handles.find? handle = some (place, shared)) :
    (handles.step (.finish handle)).1 = handles.release handle place shared := by
  simp only [step, found]
  split <;> rfl

end Handles

namespace Represents

variable {handles : Handles α} {ledger : Ledger α} {handle place : Nat}

theorem ofReachable (reachable : handles.Reachable) :
    ∃ ledger, Represents handles ledger := by
  obtain ⟨operations, rfl⟩ := reachable
  exact ⟨_, (start_empty.run operations).2⟩

theorem failures_collector? (represents : Represents handles ledger)
    (known : place < ledger.collectors) :
    (handles.collector? place).map Collector.failures = some (ledger.failuresOf place) := by
  have inside : place < handles.shared.length := by
    rw [represents.length_eq]
    exact known
  have present := List.getElem?_eq_getElem inside
  rw [collector?, present, Option.map_some, Option.map_some,
    (represents.shows present).failures_eq]

theorem answer_finish (represents : Represents handles ledger)
    (home : ledger.home? handle = some place) :
    (handles.step (.finish handle)).2.value =
      Ledger.departure ⟨ledger.failuresOf place⟩ ((ledger.liveTo place).erase handle).card := by
  rw [(represents.step (.finish handle)).1, Ledger.answer, Ledger.about, home, Option.elim_some]

theorem ending?_finish (represents : Represents handles ledger)
    (home : ledger.home? handle = some place) :
    handles.ending? place (.finish handle) =
      some (Ledger.departure ⟨ledger.failuresOf place⟩
        ((ledger.liveTo place).erase handle).card) := by
  rw [ending?, represents.target?_eq, if_pos home, represents.answer_finish home]

/-- An operation has an ending only if it finishes through a live handle. -/
theorem exists_of_ending? (represents : Represents handles ledger) {operation : Operation α}
    {reply : Reply α} (ending : handles.ending? place operation = some reply) :
    ∃ handle, operation = .finish handle ∧ ledger.home? handle = some place := by
  cases operation with
  | finish handle =>
      rw [ending?, represents.target?_eq] at ending
      split at ending
      · rename_i home
        exact ⟨handle, rfl, home⟩
      · contradiction
  | _ => contradiction

/-! ## At most one result -/

theorem endings_eq_nil (represents : Represents handles ledger)
    (closed : ledger.Closed place) (operations : List (Operation α)) :
    handles.endings place operations = [] := by
  induction operations generalizing handles ledger with
  | nil => rfl
  | cons operation later ih =>
      have nothing : handles.ending? place operation = none := by
        rw [Option.eq_none_iff_forall_ne_some]
        intro reply ending
        obtain ⟨handle, -, home⟩ := represents.exists_of_ending? ending
        exact closed.home?_ne handle home
      rw [endings, nothing, ih (represents.step operation).2 (closed.after operation)]
      rfl

/-- Once the collector was taken apart nobody finishes through a handle to it. -/
theorem countP_endings_le_one (represents : Represents handles ledger)
    (operations : List (Operation α)) :
    (handles.endings place operations).countP Reply.isFinished ≤ 1 := by
  induction operations generalizing handles ledger with
  | nil => exact Nat.zero_le 1
  | cons operation later ih =>
      have next := (represents.step operation).2
      rw [endings]
      cases ending : handles.ending? place operation with
      | none => exact ih next
      | some reply =>
          obtain ⟨handle, rfl, home⟩ := represents.exists_of_ending? ending
          rw [represents.ending?_finish home, Option.some.injEq] at ending
          subst ending
          cases others : ((ledger.liveTo place).erase handle).card with
          | zero =>
              have closed : (ledger.close handle).Closed place :=
                Ledger.closed_close (represents.home_lt home) (Finset.card_eq_zero.mp others)
              rw [next.endings_eq_nil closed]
              exact Nat.le_refl 1
          | succ others =>
              simpa [Ledger.departure, Reply.isFinished] using ih next

/-! ## Counting down -/

/-- Without an ending no handle to the collector ends, unless it is dropped. -/
theorem disjoint_ended (represents : Represents handles ledger) {operation : Operation α}
    (ending : handles.ending? place operation = none)
    (undropped : ∀ handle ∈ ledger.liveTo place, operation ≠ .drop handle) :
    Disjoint (ledger.liveTo place) operation.ended := by
  rw [Finset.disjoint_left]
  intro handle held ends
  rcases Operation.mem_ended_iff.mp ends with rfl | rfl
  · exact undropped handle held rfl
  · rw [represents.ending?_finish (Ledger.mem_liveTo.mp held)] at ending
    contradiction

/-- While the handles to a collector are neither cloned nor dropped, those who finish
count the owners down, and the last one gets everything that was recorded. -/
theorem endings_eq_countdown (represents : Represents handles ledger)
    (known : place < ledger.collectors) {operations : List (Operation α)}
    (kept : ∀ handle ∈ ledger.liveTo place,
      .clone handle ∉ operations ∧ .drop handle ∉ operations)
    (ended : (ledger.afterAll operations).liveTo place = ∅) :
    handles.endings place operations =
      (List.range (ledger.liveTo place).card).reverse.map
        (Ledger.departure ⟨(ledger.afterAll operations).failuresOf place⟩) := by
  induction operations generalizing handles ledger with
  | nil =>
      rw [Ledger.afterAll_nil] at ended
      rw [ended]
      rfl
  | cons operation later ih =>
      obtain ⟨live, keptNext⟩ := Ledger.liveTo_after_of_kept known kept
      have knownNext : place < (ledger.after operation).collectors :=
        Nat.lt_of_lt_of_le known (ledger.collectors_le_after operation)
      rw [endings, ih (represents.step operation).2 knownNext keptNext ended]
      cases ending : handles.ending? place operation with
      | none =>
          have undropped : ∀ handle ∈ ledger.liveTo place, operation ≠ .drop handle := by
            rintro handle held rfl
            exact (kept handle held).2 List.mem_cons_self
          have nobody := represents.disjoint_ended ending undropped
          rw [live, Finset.sdiff_eq_self_of_disjoint nobody]
          rfl
      | some reply =>
          obtain ⟨handle, rfl, home⟩ := represents.exists_of_ending? ending
          rw [represents.ending?_finish home, Option.some.injEq] at ending
          subst ending
          have held : handle ∈ ledger.liveTo place := Ledger.mem_liveTo.mpr home
          have left : (ledger.after (.finish handle)).liveTo place =
              (ledger.liveTo place).erase handle := ledger.liveTo_close handle place
          rw [left, ← Finset.card_erase_add_one held, List.range_succ, List.reverse_append,
            List.reverse_singleton, List.map_append, List.map_singleton, Option.toList_some,
            Ledger.afterAll_cons]
          congr 2
          apply Ledger.departure_congr
          intro nobody
          -- The last one who finishes closes the collector, so its failures stay.
          have closed : (ledger.close handle).Closed place :=
            Ledger.closed_close known (Finset.card_eq_zero.mp nobody)
          exact congrArg Completed.mk (closed.afterAll later).2.symm

/-! ## Refusals and results -/

/-- Who is refused learns how many other owners there are. -/
theorem finish_refused (represents : Represents handles ledger)
    (home : ledger.home? handle = some place)
    (shared : (ledger.liveTo place).erase handle ≠ ∅) :
    (handles.step (.finish handle)).2.value =
        .stillShared ((ledger.liveTo place).erase handle).card ∧
      LosesOnly handles (handles.step (.finish handle)).1 handle place := by
  obtain ⟨entry, found, -⟩ := represents.exists_find? home
  constructor
  · rw [represents.answer_finish home]
    exact Ledger.departure_of_ne_zero (Finset.card_ne_zero.mpr (Finset.nonempty_of_ne_empty shared))
  · rw [step_finish_fst found]
    exact losesOnly_release found

/-- Who succeeds leaves nobody behind who could record another failure. -/
theorem finish_closes (represents : Represents handles ledger)
    (home : ledger.home? handle = some place) {result : Completed α}
    (finished : (handles.step (.finish handle)).2.value = .finished result)
    (later : List (Operation α)) :
    ((handles.step (.finish handle)).1.run later).1.liveTo place = ∅ ∧
      (((handles.step (.finish handle)).1.run later).1.collector? place).map
        Collector.failures = some result.failures := by
  rw [represents.answer_finish home, Ledger.departure_eq_finished_iff] at finished
  obtain ⟨nobody, rfl⟩ := finished
  have closed : (ledger.close handle).Closed place :=
    Ledger.closed_close (represents.home_lt home) (Finset.card_eq_zero.mp nobody)
  have last := ((represents.step (.finish handle)).2.run later).2
  obtain ⟨stays, failures⟩ := closed.afterAll later
  constructor
  · rw [last.liveTo_eq]
    exact stays.unheld
  · rw [last.failures_collector? stays.known]
    exact congrArg some failures

end Represents

/-! ## The last owner -/

namespace Handles

/-- In a state that a run can reach, finishing through a live handle succeeds exactly
when no other live handle names the collector.  Otherwise it tells how many do, and
only the handle itself is gone.  Nobody can reach a collector that was taken apart and
nothing is recorded on it any more, so at most one finish succeeds in a run.  When all
live handles end by finishing, in any order and among any other operations, the
answers count down to the result. -/
theorem only_last_owner_finishes {handles : Handles α} (reachable : handles.Reachable)
    (place : Nat) :
    (∀ handle, handles.target? handle = some place →
      let others := (handles.liveTo place).erase handle
      let answer := (handles.step (.finish handle)).2.value
      let next := (handles.step (.finish handle)).1
      ((∃ result, answer = .finished result) ↔
        ∀ other, handles.target? other = some place → other = handle) ∧
      ((∃ other, handles.target? other = some place ∧ other ≠ handle) →
        answer = .stillShared others.card ∧ LosesOnly handles next handle place) ∧
      (∀ result, answer = .finished result → ∀ later,
        (next.run later).1.liveTo place = ∅ ∧
        ((next.run later).1.collector? place).map Collector.failures =
          some result.failures)) ∧
    (∀ operations, (handles.endings place operations).countP Reply.isFinished ≤ 1) ∧
    (∀ operations, (handles.liveTo place).Nonempty →
      (∀ handle ∈ handles.liveTo place,
        .clone handle ∉ operations ∧ .drop handle ∉ operations) →
      (handles.run operations).1.liveTo place = ∅ →
      ∃ result,
        ((handles.run operations).1.collector? place).map Collector.failures =
          some result.failures ∧
        handles.endings place operations =
          (List.range (handles.liveTo place).card).reverse.map (Ledger.departure result)) := by
  obtain ⟨ledger, represents⟩ := Represents.ofReachable reachable
  refine ⟨?_, represents.countP_endings_le_one, ?_⟩
  · intro handle live
    have home : ledger.home? handle = some place := represents.target?_eq handle ▸ live
    rw [represents.liveTo_eq]
    refine ⟨?_, ?_, fun _ => represents.finish_closes home⟩
    · rw [← erase_liveTo_eq_empty_iff, represents.liveTo_eq, represents.answer_finish home]
      simp only [Ledger.departure_eq_finished_iff, Finset.card_eq_zero, exists_and_left,
        exists_eq', and_true]
    · rintro ⟨other, named, different⟩
      apply represents.finish_refused home
      rw [← represents.liveTo_eq, ne_eq, erase_liveTo_eq_empty_iff]
      exact fun alone => different (alone other named)
  · intro operations someone kept ended
    obtain ⟨handle, held⟩ := someone
    have known : place < ledger.collectors := by
      rw [represents.liveTo_eq, Ledger.mem_liveTo] at held
      exact represents.home_lt held
    have last := (represents.run operations).2
    have knownLast := Nat.lt_of_lt_of_le known (ledger.collectors_le_afterAll operations)
    rw [last.liveTo_eq] at ended
    rw [represents.liveTo_eq] at kept ⊢
    exact ⟨_, last.failures_collector? knownLast,
      represents.endings_eq_countdown known kept ended⟩

/-- Three owners of one collector with a failure, and a second collector. -/
def threeOwners : Handles Nat :=
  (empty.run [.create, .clone 0, .record 1 7, .create, .clone 1]).1

/-- The three of them finish, the owner of the second collector among them. -/
def allLeave : List (Operation Nat) :=
  [.finish 1, .record 3 8, .finish 0, .finish 2, .finish 3]

theorem only_last_owner_finishes_threeOwners :
    threeOwners.Reachable ∧ threeOwners.target? 1 = some 0 ∧
      (threeOwners.step (.finish 1)).2.value = .stillShared 2 ∧
      ∃ result, result.failures = [7, 8] ∧
        threeOwners.endings 0 allLeave =
          [.stillShared 2, .stillShared 1, .finished result] := by
  have reachable : threeOwners.Reachable := ⟨_, rfl⟩
  obtain ⟨each, -, together⟩ := only_last_owner_finishes reachable 0
  obtain ⟨-, refused, -⟩ := each 1 rfl
  have kept : ∀ handle ∈ threeOwners.liveTo 0,
      .clone handle ∉ allLeave ∧ .drop handle ∉ allLeave := by
    simp [allLeave]
  obtain ⟨result, failures, endings⟩ := together allLeave ⟨0, by decide⟩ kept (by decide)
  exact ⟨reachable, rfl, (refused ⟨0, rfl, by decide⟩).1, result,
    (Option.some.inj failures).symm, endings⟩

end Handles

end Triage.Transfer

import Mathlib.Data.List.Perm.Basic
import Mathlib.Data.List.Perm.Subperm
import Triage.Transfer.Completed

/-!
# Pairing off is equality of multisets

Failures are paired off greedily: each takes the first free candidate that equals
it.  The candidates still free carry the argument.  Pairing off succeeds exactly
when the classes of the failures are a sub-multiset of the classes of the free
candidates, since taking a candidate removes its class from that multiset once, and
equal candidates may stand in for each other.

Results are therefore equal exactly when one list of failures is a permutation of
the other up to the equality of failures.
-/

namespace Triage.Transfer.Completed

universe u

variable {α : Type u} [BEq α]

/-! ## Free candidates -/

/-- The candidates that are not taken. -/
def free : List α → (taken : List Bool) → List α
  | candidate :: candidates, isTaken :: taken =>
      if isTaken then free candidates taken else candidate :: free candidates taken
  | _, _ => []

omit [BEq α] in
/-- Nothing is taken at the start. -/
@[simp]
theorem free_replicate_false (candidates : List α) :
    free candidates (List.replicate candidates.length false) = candidates := by
  induction candidates with
  | nil => rfl
  | cons candidate candidates ih => simp [free, List.replicate_succ, ih]

theorem firstFree?_cons (failure candidate : α) (candidates : List α)
    (isTaken : Bool) (taken : List Bool) :
    firstFree? failure (candidate :: candidates) (isTaken :: taken) =
      if !isTaken && candidate == failure then some 0
      else (firstFree? failure candidates taken).map (· + 1) := by
  rw [firstFree?, List.zip_cons_cons, List.findIdx?_cons]
  rfl

/-- The search fails only when no free candidate equals the failure. -/
theorem firstFree?_eq_none_iff (failure : α) (candidates : List α) (taken : List Bool) :
    firstFree? failure candidates taken = none ↔
      ∀ candidate ∈ free candidates taken, (candidate == failure) = false := by
  induction candidates generalizing taken with
  | nil => simp [firstFree?, free]
  | cons candidate candidates ih =>
      cases taken with
      | nil => simp [firstFree?, free]
      | cons isTaken taken =>
          rw [firstFree?_cons]
          cases isTaken with
          | true => simp [free, ih]
          | false =>
              cases same : candidate == failure with
              | true => simp [free, same]
              | false => simp [free, same, ih]

/-- A found candidate equals the failure, and marking it takes exactly this
candidate away. -/
theorem firstFree?_eq_some {failure : α} {candidates : List α} {taken : List Bool}
    {index : Nat} (found : firstFree? failure candidates taken = some index) :
    ∃ candidate, (candidate == failure) = true ∧
      (free candidates taken).Perm
        (candidate :: free candidates (taken.set index true)) := by
  induction candidates generalizing taken index with
  | nil => simp [firstFree?] at found
  | cons first candidates ih =>
      cases taken with
      | nil => simp [firstFree?] at found
      | cons isTaken taken =>
          rw [firstFree?_cons] at found
          split at found
          · rename_i isFree
            rw [Bool.and_eq_true, Bool.not_eq_true'] at isFree
            cases found
            refine ⟨first, isFree.2, ?_⟩
            simp [free, isFree.1]
          · obtain ⟨place, laterFound, rfl⟩ := Option.map_eq_some_iff.mp found
            obtain ⟨candidate, same, remains⟩ := ih laterFound
            refine ⟨candidate, same, ?_⟩
            cases isTaken with
            | true => simpa [free] using remains
            | false =>
                simp only [free, List.set_cons_succ, Bool.false_eq_true, if_false]
                exact (remains.cons first).trans (List.Perm.swap _ _ _)

/-! ## Classes of equal elements -/

variable [EquivBEq α]

/-- Elements up to their equality test. -/
def equalitySetoid (α : Type u) [BEq α] [EquivBEq α] : Setoid α where
  r first second := (first == second) = true
  iseqv := ⟨fun _ => BEq.rfl, BEq.symm, BEq.trans⟩

/-- The class of the elements equal to one. -/
def classOf (element : α) : Quotient (equalitySetoid α) :=
  Quotient.mk (equalitySetoid α) element

theorem classOf_eq_iff {first second : α} :
    classOf first = classOf second ↔ (first == second) = true :=
  ⟨Quotient.exact, Quotient.sound (s := equalitySetoid α)⟩

/-- Pairing off never blocks itself: it succeeds exactly when the failures, up to
equality, are among the free candidates, each as often. -/
theorem pairsOff_iff_subperm (candidates failures : List α) (taken : List Bool) :
    pairsOff candidates failures taken = true ↔
      (failures.map classOf).Subperm ((free candidates taken).map classOf) := by
  -- The marks change with each failure, so the statement is about every state of them.
  induction failures generalizing taken with
  | nil => simp [pairsOff]
  | cons failure later ih =>
      rw [pairsOff]
      cases found : firstFree? failure candidates taken with
      | none =>
          simp only [Bool.false_eq_true, false_iff]
          intro among
          have member : classOf failure ∈ (free candidates taken).map classOf :=
            among.subset List.mem_cons_self
          obtain ⟨candidate, isFree, sameClass⟩ := List.mem_map.mp member
          have different :=
            (firstFree?_eq_none_iff failure candidates taken).mp found candidate isFree
          rw [classOf_eq_iff.mp sameClass] at different
          contradiction
      | some index =>
          obtain ⟨candidate, same, remains⟩ := firstFree?_eq_some found
          -- Which of the equal candidates is taken makes no difference to the classes.
          have classes : ((free candidates taken).map classOf).Perm
              (classOf failure :: (free candidates (taken.set index true)).map classOf) := by
            rw [← classOf_eq_iff.mpr same]
            exact remains.map classOf
          rw [List.map_cons, classes.subperm_left, List.subperm_cons]
          exact ih (taken.set index true)

/-! ## Equality of results -/

/-- Results are equal when their failures are the same up to order and equality. -/
theorem beq_iff_perm_classes (first second : Completed α) :
    (first == second) = true ↔
      (first.failures.map classOf).Perm (second.failures.map classOf) := by
  change equal first second = true ↔ _
  rw [equal, Bool.and_eq_true, pairsOff_iff_subperm, free_replicate_false, beq_iff_eq]
  constructor
  · rintro ⟨sameLength, among⟩
    apply among.perm_of_length_le
    rw [List.length_map, List.length_map]
    exact Nat.le_of_eq sameLength.symm
  · intro classes
    refine ⟨?_, classes.subperm⟩
    simpa using classes.length_eq

/-- The order of the failures makes no difference. -/
theorem beq_of_perm {first second : Completed α}
    (permuted : first.failures.Perm second.failures) : (first == second) = true :=
  (beq_iff_perm_classes first second).mpr (permuted.map classOf)

/-- Lists have the same classes exactly when some permutation of the second agrees
with the first element by element. -/
theorem perm_classes_iff_exists_matching (first second : List α) :
    (first.map classOf).Perm (second.map classOf) ↔
      ∃ matching, matching.Perm second ∧
        List.Forall₂ (fun x y => (x == y) = true) first matching := by
  constructor
  · intro classes
    have own : List.Forall₂ (fun c y => c = classOf y) (second.map classOf) second := by
      rw [List.forall₂_map_left_iff]
      exact List.forall₂_same.mpr fun _ _ => rfl
    obtain ⟨matching, agrees, permutes⟩ :
        Relation.Comp (List.Forall₂ fun c y => c = classOf y) List.Perm
          (first.map classOf) second := by
      rw [List.forall₂_comp_perm_eq_perm_comp_forall₂]
      exact ⟨second.map classOf, classes, own⟩
    refine ⟨matching, permutes, ?_⟩
    rw [List.forall₂_map_left_iff] at agrees
    exact agrees.imp fun _ _ => classOf_eq_iff.mp
  · rintro ⟨matching, permutes, agrees⟩
    have sameClasses : first.map classOf = matching.map classOf := by
      rw [← List.forall₂_eq_eq_eq, List.forall₂_map_left_iff, List.forall₂_map_right_iff]
      exact agrees.imp fun _ _ => classOf_eq_iff.mpr
    rw [sameClasses]
    exact permutes.map classOf

/-- The equality of results is an equivalence when that of their failures is one. -/
instance : EquivBEq (Completed α) where
  rfl := (beq_iff_perm_classes _ _).mpr (List.Perm.refl _)
  symm same :=
    (beq_iff_perm_classes _ _).mpr ((beq_iff_perm_classes _ _).mp same).symm
  trans same further :=
    (beq_iff_perm_classes _ _).mpr
      (((beq_iff_perm_classes _ _).mp same).trans ((beq_iff_perm_classes _ _).mp further))

end Triage.Transfer.Completed

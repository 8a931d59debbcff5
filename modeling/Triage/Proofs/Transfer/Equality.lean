import Mathlib.Data.Multiset.Defs
import Triage.Proofs.Transfer.Pairing
import Triage.Transfer.FailedTransfer

/-!
# Equality of failed transfers and of results

Failed transfers are compared part by part: texts exactly, local paths by their
components, failed calls field by field.  This is an equivalence, so results are
equal exactly when they hold the same failures up to it, each as often.
-/

namespace Triage

instance : EquivBEq Path :=
  equivBEq_of_iff_apply_eq Path.components fun _ _ => Path.beq_iff

namespace Transfer

variable {direction : Direction}

/-! ## Requests and errors -/

/-- Requests agree: bucket and key exactly, the path by its components. -/
def FileRequest.Agrees (first second : FileRequest direction) : Prop :=
  first.bucket = second.bucket ∧ first.key = second.key ∧
    first.path.components = second.path.components

/-- Errors agree: failed calls in every field, local errors in the components of
the path and in the message. -/
def TransferError.Agrees : TransferError → TransferError → Prop
  | .service first, .service second => first = second
  | .localFile firstPath firstMessage, .localFile secondPath secondMessage =>
      firstPath.components = secondPath.components ∧ firstMessage = secondMessage
  | .cancelled, .cancelled => True
  | _, _ => False

/-- Failed transfers agree in their requests and in their errors. -/
def FailedTransfer.Agrees (first second : FailedTransfer direction) : Prop :=
  first.request.Agrees second.request ∧ first.error.Agrees second.error

theorem FileRequest.beq_iff_agrees (first second : FileRequest direction) :
    (first == second) = true ↔ first.Agrees second := by
  change (first.bucket == second.bucket &&
    (first.key == second.key && first.path == second.path)) = true ↔ _
  rw [Bool.and_eq_true, Bool.and_eq_true, beq_iff_eq, beq_iff_eq, Path.beq_iff]
  rfl

theorem TransferError.beq_iff_agrees (first second : TransferError) :
    (first == second) = true ↔ first.Agrees second := by
  cases first <;> cases second
  case service.service failure other =>
    change (failure == other) = true ↔ failure = other
    exact beq_iff_eq
  case localFile.localFile path message otherPath otherMessage =>
    change (path == otherPath && message == otherMessage) = true ↔
      path.components = otherPath.components ∧ message = otherMessage
    rw [Bool.and_eq_true, Path.beq_iff, beq_iff_eq]
  case cancelled.cancelled => exact iff_of_true rfl trivial
  -- Errors of different kinds are neither equal nor do they agree.
  all_goals exact iff_of_false Bool.false_ne_true not_false

theorem FailedTransfer.beq_iff_agrees (first second : FailedTransfer direction) :
    (first == second) = true ↔ first.Agrees second := by
  change (first.request == second.request && first.error == second.error) = true ↔ _
  rw [Bool.and_eq_true, FileRequest.beq_iff_agrees, TransferError.beq_iff_agrees]
  rfl

/-! ## Agreement is an equivalence -/

theorem FileRequest.agrees_equivalence :
    Equivalence fun first second : FileRequest direction => first.Agrees second where
  refl _ := ⟨rfl, rfl, rfl⟩
  symm := fun ⟨bucket, key, path⟩ => ⟨bucket.symm, key.symm, path.symm⟩
  trans := fun ⟨bucket, key, path⟩ ⟨bucket', key', path'⟩ =>
    ⟨bucket.trans bucket', key.trans key', path.trans path'⟩

theorem TransferError.agrees_equivalence : Equivalence TransferError.Agrees where
  refl error := by
    cases error with
    | service failure => rfl
    | localFile path message => exact ⟨rfl, rfl⟩
    | cancelled => trivial
  symm {first second} agree := by
    cases first <;> cases second <;> simp_all [Agrees]
  trans {first second third} agree further := by
    cases first <;> cases second <;> cases third <;> simp_all [Agrees]

theorem FailedTransfer.agrees_equivalence :
    Equivalence fun first second : FailedTransfer direction => first.Agrees second where
  refl failed :=
    ⟨FileRequest.agrees_equivalence.refl failed.request,
      TransferError.agrees_equivalence.refl failed.error⟩
  symm agree :=
    ⟨FileRequest.agrees_equivalence.symm agree.1,
      TransferError.agrees_equivalence.symm agree.2⟩
  trans agree further :=
    ⟨FileRequest.agrees_equivalence.trans agree.1 further.1,
      TransferError.agrees_equivalence.trans agree.2 further.2⟩

instance : EquivBEq (FailedTransfer direction) where
  rfl := (FailedTransfer.beq_iff_agrees _ _).mpr (FailedTransfer.agrees_equivalence.refl _)
  symm same :=
    (FailedTransfer.beq_iff_agrees _ _).mpr
      (FailedTransfer.agrees_equivalence.symm ((FailedTransfer.beq_iff_agrees _ _).mp same))
  trans same further :=
    (FailedTransfer.beq_iff_agrees _ _).mpr
      (FailedTransfer.agrees_equivalence.trans ((FailedTransfer.beq_iff_agrees _ _).mp same)
        ((FailedTransfer.beq_iff_agrees _ _).mp further))

/-! ## Results -/

/-- Two results are equal exactly when the failures of one are a permutation of
those of the other, element by element, that is when both hold the same multiset of
failures up to equality.  Failures are equal when they agree, and both equalities
are equivalences. -/
theorem equality_is_multiset_equality (direction : Direction) :
    (∀ xs ys : List (FailedTransfer direction),
      ((Completed.mk xs == Completed.mk ys) = true ↔
        ∃ matching, matching.Perm ys ∧
          List.Forall₂ (fun x y => (x == y) = true) xs matching) ∧
      ((Completed.mk xs == Completed.mk ys) = true ↔
        Multiset.ofList (xs.map Completed.classOf) =
          Multiset.ofList (ys.map Completed.classOf))) ∧
    (∀ x y : FailedTransfer direction, (x == y) = true ↔ x.Agrees y) ∧
    Equivalence (fun x y : FailedTransfer direction => (x == y) = true) ∧
    Equivalence (fun first second : Completed (FailedTransfer direction) =>
      (first == second) = true) := by
  refine ⟨?_, FailedTransfer.beq_iff_agrees, ?_, ?_⟩
  · intro xs ys
    have classes := Completed.beq_iff_perm_classes (Completed.mk xs) (Completed.mk ys)
    constructor
    · exact classes.trans (Completed.perm_classes_iff_exists_matching xs ys)
    · rw [Multiset.coe_eq_coe]
      exact classes
  · exact ⟨fun _ => BEq.rfl, BEq.symm, BEq.trans⟩
  · exact ⟨fun _ => BEq.rfl, BEq.symm, BEq.trans⟩

end Transfer

end Triage

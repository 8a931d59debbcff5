import Mathlib.Data.Set.Card
import Triage.Proofs.Transfer.Equality

/-!
# Hashing of results

Equality pairs failures off and hashing sums their hashes.  Both see only the classes
of the failures, whatever their order, so equal results feed the same data to a
hasher.  A hash set of results therefore finds every equal entry and keeps exactly one
result of each class.
-/

namespace Triage.Transfer.Completed

universe u

variable {α : Type u} [BEq α]

/-- Equal elements have equal hashes. -/
def Respects (elementHash : α → UInt64) : Prop :=
  ∀ first second, (first == second) = true → elementHash first = elementHash second

/-- A hash set of results has this many entries.  It compares the hashes of what is
hashed of them before it compares the results. -/
def tableSize (outerHash : Nat × UInt64 → UInt64) (elementHash : α → UInt64)
    (results : List (Completed α)) : Nat :=
  letI : Hashable (Completed α) := ⟨fun result => outerHash (hashInput elementHash result)⟩
  (Std.HashSet.ofList results).size

variable [EquivBEq α] {elementHash : α → UInt64}

/-! ## Equal results hash equally -/

/-- The hash of a class. -/
def Respects.classHash (respects : Respects elementHash) :
    Quotient (equalitySetoid α) → UInt64 :=
  Quotient.lift elementHash respects

theorem Respects.map_classHash (respects : Respects elementHash) (failures : List α) :
    (failures.map classOf).map respects.classHash = failures.map elementHash := by
  rw [List.map_map]
  rfl

theorem hashInput_eq_of_beq (respects : Respects elementHash) {first second : Completed α}
    (same : (first == second) = true) :
    hashInput elementHash first = hashInput elementHash second := by
  have classes := (beq_iff_perm_classes first second).mp same
  have hashes : (first.failures.map elementHash).Perm (second.failures.map elementHash) := by
    rw [← respects.map_classHash, ← respects.map_classHash]
    exact classes.map respects.classHash
  rw [hashInput, hashInput, hashes.foldl_eq]
  congr 1
  simpa using classes.length_eq

/-! ## One result of each class -/

/-- A set keeps exactly one of each class of some results. -/
structure KeepsOneOfEach (set results : List (Completed α)) : Prop where
  present : ∀ entry ∈ set, ∃ result ∈ results, (entry == result) = true
  apart : set.Pairwise fun first second => (first == second) = false
  covers : ∀ result ∈ results, ∃ entry ∈ set, (entry == result) = true

/-- The classes of some results. -/
def classesOf (results : List (Completed α)) : Set (Quotient (equalitySetoid (Completed α))) :=
  {c | ∃ result ∈ results, classOf result = c}

namespace KeepsOneOfEach

variable {set results : List (Completed α)}

theorem nodup_classes (keeps : KeepsOneOfEach set results) : (set.map classOf).Nodup := by
  rw [List.nodup_iff_pairwise_ne, List.pairwise_map]
  refine keeps.apart.imp ?_
  intro first second different same
  rw [classOf_eq_iff.mp same] at different
  contradiction

theorem mem_classes_iff (keeps : KeepsOneOfEach set results)
    (c : Quotient (equalitySetoid (Completed α))) :
    c ∈ set.map classOf ↔ c ∈ classesOf results := by
  rw [List.mem_map]
  constructor
  · rintro ⟨entry, kept, rfl⟩
    obtain ⟨result, member, same⟩ := keeps.present entry kept
    exact ⟨result, member, (classOf_eq_iff.mpr same).symm⟩
  · rintro ⟨result, member, rfl⟩
    obtain ⟨entry, kept, same⟩ := keeps.covers result member
    exact ⟨entry, kept, classOf_eq_iff.mpr same⟩

/-- The size of the set is the number of classes. -/
theorem length_eq (keeps : KeepsOneOfEach set results) :
    set.length = (classesOf results).ncard := by
  classical
  have classes : classesOf results = ((set.map classOf).toFinset : Set _) := by
    ext c
    rw [Finset.mem_coe, List.mem_toFinset, keeps.mem_classes_iff]
  rw [classes, Set.ncard_coe_finset, List.toFinset_card_of_nodup keeps.nodup_classes,
    List.length_map]

/-- Every result is equal to exactly one entry. -/
theorem countP_eq_one (keeps : KeepsOneOfEach set results) {result : Completed α}
    (member : result ∈ results) : set.countP (· == result) = 1 := by
  classical
  have counted : set.countP (· == result) = (set.map classOf).count (classOf result) := by
    rw [List.count, List.countP_map]
    congr 1
    funext entry
    rw [Bool.eq_iff_iff, Function.comp_apply, ← classOf_eq_iff, beq_iff_eq]
  rw [counted]
  apply List.count_eq_one_of_mem keeps.nodup_classes
  exact (keeps.mem_classes_iff _).mpr ⟨result, member, rfl⟩

end KeepsOneOfEach

/-! ## Inserting one after the other -/

/-- Equal results are found under their hash. -/
theorem insertDistinct_eq (respects : Respects elementHash) (set : List (Completed α))
    (result : Completed α) :
    insertDistinct elementHash set result =
      if set.any (· == result) then set else set ++ [result] := by
  have found : (fun present => hashInput elementHash present == hashInput elementHash result &&
      present == result) = (· == result) := by
    funext present
    cases same : present == result with
    | false => exact Bool.and_false _
    | true => rw [Bool.and_true, hashInput_eq_of_beq respects same, BEq.rfl]
  rw [insertDistinct, found]

/-- Inserting a result keeps one of each class. -/
theorem KeepsOneOfEach.insert (respects : Respects elementHash)
    {set results : List (Completed α)} (keeps : KeepsOneOfEach set results)
    (result : Completed α) :
    KeepsOneOfEach (insertDistinct elementHash set result) (results ++ [result]) := by
  have present : ∀ entry ∈ set, ∃ other ∈ results ++ [result], (entry == other) = true := by
    intro entry kept
    obtain ⟨other, member, same⟩ := keeps.present entry kept
    exact ⟨other, List.mem_append_left _ member, same⟩
  rw [insertDistinct_eq respects]
  split
  · rename_i found
    obtain ⟨entry, kept, same⟩ := List.any_eq_true.mp found
    refine ⟨present, keeps.apart, ?_⟩
    simp only [List.forall_mem_append, List.forall_mem_singleton]
    exact ⟨keeps.covers, entry, kept, same⟩
  · rename_i new
    rw [Bool.not_eq_true, List.any_eq_false] at new
    refine ⟨?_, ?_, ?_⟩
    · simp only [List.forall_mem_append, List.forall_mem_singleton]
      exact ⟨present, result, List.mem_append_right _ List.mem_cons_self, BEq.rfl⟩
    · rw [List.pairwise_append]
      refine ⟨keeps.apart, List.pairwise_singleton _ _, ?_⟩
      simpa using new
    · simp only [List.forall_mem_append, List.forall_mem_singleton]
      refine ⟨?_, result, List.mem_append_right _ List.mem_cons_self, BEq.rfl⟩
      intro other member
      obtain ⟨entry, kept, same⟩ := keeps.covers other member
      exact ⟨entry, List.mem_append_left _ kept, same⟩

/-- Inserting results one after the other keeps one of each class. -/
theorem KeepsOneOfEach.foldl (respects : Respects elementHash)
    {set results : List (Completed α)} (keeps : KeepsOneOfEach set results)
    (later : List (Completed α)) :
    KeepsOneOfEach (later.foldl (insertDistinct elementHash) set) (results ++ later) := by
  induction later generalizing set results with
  | nil => simpa using keeps
  | cons result later ih => simpa using ih (keeps.insert respects result)

theorem keepsOneOfEach_distinct (respects : Respects elementHash)
    (results : List (Completed α)) :
    KeepsOneOfEach (distinct elementHash results) results := by
  have nothing : KeepsOneOfEach [] ([] : List (Completed α)) := ⟨by simp, .nil, by simp⟩
  exact nothing.foldl respects results

/-- A hash table keeps one of each class as well, whatever the hash of the data. -/
theorem tableSize_eq (respects : Respects elementHash) (outerHash : Nat × UInt64 → UInt64)
    (results : List (Completed α)) :
    tableSize outerHash elementHash results = (classesOf results).ncard := by
  let _ : Hashable (Completed α) := ⟨fun result => outerHash (hashInput elementHash result)⟩
  have _ : LawfulHashable (Completed α) :=
    ⟨fun _ _ same => congrArg outerHash (hashInput_eq_of_beq respects same)⟩
  have sameMembers : ∀ result, (Std.HashSet.ofList results).toList.contains result =
      results.contains result := by
    intro result
    rw [Std.HashSet.contains_toList, Std.HashSet.contains_ofList]
  have keeps : KeepsOneOfEach (Std.HashSet.ofList results).toList results := by
    refine ⟨?_, Std.HashSet.distinct_toList, ?_⟩
    · intro entry kept
      have found : results.contains entry = true := by
        rw [← sameMembers]
        exact List.contains_iff_exists_mem_beq.mpr ⟨entry, kept, BEq.rfl⟩
      exact List.contains_iff_exists_mem_beq.mp found
    · intro result member
      have found : (Std.HashSet.ofList results).toList.contains result = true := by
        rw [sameMembers]
        exact List.contains_iff_exists_mem_beq.mpr ⟨result, member, BEq.rfl⟩
      obtain ⟨entry, kept, same⟩ := List.contains_iff_exists_mem_beq.mp found
      exact ⟨entry, kept, BEq.symm same⟩
  rw [← keeps.length_eq, Std.HashSet.length_toList]
  rfl

/-- Equal results feed the same data to a hasher.  So a set of results has exactly one
entry equal to each of them and nothing else, and its size is the number of results
that differ pairwise; a hash table has that size under any hash of the data. -/
theorem sets_keep_one_of_each_class (elementHash : α → UInt64)
    (respects : Respects elementHash) :
    (∀ first second : Completed α, (first == second) = true →
      hashInput elementHash first = hashInput elementHash second) ∧
    (∀ results : List (Completed α),
      (∀ result ∈ results, (distinct elementHash results).countP (· == result) = 1) ∧
      (∀ entry ∈ distinct elementHash results, ∃ result ∈ results, (entry == result) = true) ∧
      (distinct elementHash results).length = (classesOf results).ncard ∧
      ∀ outerHash, tableSize outerHash elementHash results = (classesOf results).ncard) := by
  refine ⟨fun _ _ => hashInput_eq_of_beq respects, ?_⟩
  intro results
  have keeps := keepsOneOfEach_distinct respects results
  exact ⟨fun _ => keeps.countP_eq_one, keeps.present, keeps.length_eq,
    fun outerHash => tableSize_eq respects outerHash results⟩

/-- A cancelled download. -/
def cancelledDownload (key path : String) : FailedTransfer .download :=
  ⟨⟨"bucket", key, ⟨path⟩⟩, .cancelled⟩

/-- Two equal results, written differently and in another order, and one that holds a
failure twice. -/
def threeResults : List (Completed (FailedTransfer .download)) :=
  [⟨[cancelledDownload "a" "out/a", cancelledDownload "bb" "out/bb"]⟩,
    ⟨[cancelledDownload "bb" "out//bb", cancelledDownload "a" "out/./a/"]⟩,
    ⟨[cancelledDownload "a" "out/a", cancelledDownload "a" "out/a"]⟩]

/-- The length of the key as a hash. -/
def keyLength (failed : FailedTransfer .download) : UInt64 := failed.request.key.length.toUInt64

theorem sets_keep_one_of_each_class_keyLength :
    Respects keyLength ∧ (distinct keyLength threeResults).length = 2 ∧
      (classesOf threeResults).ncard = 2 := by
  have respects : Respects keyLength := by
    intro first second same
    obtain ⟨-, sameKey, -⟩ := ((FailedTransfer.beq_iff_agrees first second).mp same).1
    rw [keyLength, keyLength, sameKey]
  have size : (distinct keyLength threeResults).length = 2 := by decide +kernel
  obtain ⟨-, sets⟩ := sets_keep_one_of_each_class keyLength respects
  obtain ⟨-, -, sameSize, -⟩ := sets threeResults
  exact ⟨respects, size, sameSize.symm.trans size⟩

end Triage.Transfer.Completed

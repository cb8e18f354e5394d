import SuiteSplit.Proofs.Shares

/-!
What a plan is: it holds every record once, keeps each class together in one batch, and its totals
are the sums of what is in it.
-/

namespace SuiteSplit

open Assignment

/-- What the batches of a plan have to be. -/
structure IsPlan (count : BatchCount) (records : List TestRecord) (bs : List Batch) : Prop where
  /-- One batch for each number from one to the count, in this order. -/
  numbers : bs.map (·.number) = List.range' 1 count.value
  /-- Nothing is lost and nothing is held twice. -/
  records_perm : (bs.flatMap (·.tests)).Perm records
  /-- The records of a class stand side by side in one batch, in their order, and in no other. -/
  class_whole : ∀ t ∈ records, ∃ b ∈ bs,
    (∃ before after,
      b.tests = before ++ records.filter (·.classname = t.classname) ++ after ∧
        ∀ u ∈ before ++ after, u.classname ≠ t.classname) ∧
      ∀ c ∈ bs, c ≠ b → ∀ u ∈ c.tests, u.classname ≠ t.classname
  /-- A total is the exact sum of the nanoseconds, cut at the longest duration. -/
  totals : ∀ b ∈ bs,
    b.total.nanos = min (b.tests.map (·.duration.nanos)).sum Duration.longest.nanos

private theorem classname_ne_of_mem_other {records : List TestRecord} {classname : String}
    {gs : List ClassGroup} (hgs : ∀ g ∈ gs, g ∈ ClassGroup.ofRecords records)
    (hother : ClassGroup.ofClass records classname ∉ gs) :
    ∀ u ∈ gs.flatMap (·.tests), u.classname ≠ classname := by
  intro u hu heq
  obtain ⟨g, hg, hug⟩ := List.mem_flatMap.mp hu
  have hg' := ClassGroup.eq_ofClass_of_mem_ofRecords (hgs g hg)
  rw [hg'] at hug
  have hkey : u.classname = g.key := by
    simpa [ClassGroup.ofClass] using (List.mem_filter.mp hug).2
  rw [← heq, hkey, ← hg'] at hother
  exact hother hg

private theorem class_whole_of_shares {records : List TestRecord}
    {shares : List (List ClassGroup)}
    (hperm : shares.flatten.Perm (ClassGroup.ofRecords records)) {t : TestRecord}
    (ht : t ∈ records) :
    ∃ b ∈ batchesOf shares,
      (∃ before after,
        b.tests = before ++ records.filter (·.classname = t.classname) ++ after ∧
          ∀ u ∈ before ++ after, u.classname ≠ t.classname) ∧
        ∀ c ∈ batchesOf shares, c ≠ b → ∀ u ∈ c.tests, u.classname ≠ t.classname := by
  have hnodup : shares.flatten.Nodup :=
    hperm.nodup_iff.mpr (ClassGroup.nodup_keys_ofRecords records).of_map
  obtain ⟨hshares, hdisjoint⟩ := List.nodup_flatten.mp hnodup
  have hmem : ∀ share ∈ shares, ∀ g ∈ share, g ∈ ClassGroup.ofRecords records := by
    intro share hshare g hg
    exact hperm.mem_iff.mp (List.mem_flatten.mpr ⟨share, hshare, hg⟩)
  obtain ⟨share, hshare, hg⟩ := List.mem_flatten.mp
    (hperm.mem_iff.mpr (ClassGroup.ofClass_mem_ofRecords ht))
  obtain ⟨i, hi, rfl⟩ := List.getElem_of_mem hshare
  obtain ⟨before, after, hsplit⟩ := List.append_of_mem hg
  refine ⟨_, mem_batchesOf.mpr ⟨i, hi, rfl⟩,
    ⟨before.flatMap (·.tests), after.flatMap (·.tests), ?_, ?_⟩, ?_⟩
  · rw [Batch.tests_addAll, hsplit]
    simp [Batch.empty, ClassGroup.ofClass]
  · have hsub : ∀ g ∈ before ++ after, g ∈ ClassGroup.ofRecords records := by
      intro g hg
      apply hmem _ hshare
      rw [hsplit]
      rcases List.mem_append.mp hg with hg | hg <;> simp [hg]
    have hothers : ClassGroup.ofClass records t.classname ∉ before ++ after := by
      have hnodup' := hshares _ hshare
      rw [hsplit, List.nodup_middle] at hnodup'
      exact (List.nodup_cons.mp hnodup').1
    rw [← List.flatMap_append]
    exact classname_ne_of_mem_other hsub hothers
  · intro c hc hne
    obtain ⟨j, hj, rfl⟩ := mem_batchesOf.mp hc
    have hij : i ≠ j := by
      rintro rfl
      exact hne rfl
    have hapart : ClassGroup.ofClass records t.classname ∉ shares[j] := by
      rcases Nat.lt_or_gt_of_ne hij with hlt | hgt
      · exact List.pairwise_iff_getElem.mp hdisjoint i j hi hj hlt hg
      · exact fun hj' => List.pairwise_iff_getElem.mp hdisjoint j i hj hi hgt hj' hg
    rw [Batch.tests_addAll]
    exact classname_ne_of_mem_other (hmem _ (List.getElem_mem hj)) hapart

/-- A plan deals out the groups of its records into one share for each batch. -/
theorem exists_shares_plan (count : BatchCount) (records : List TestRecord) :
    ∃ shares, plan count records = batchesOf shares ∧ shares.length = count.value ∧
      shares.flatten.Perm (ClassGroup.ofRecords records) := by
  obtain ⟨shares, hshares, hlength, hperm⟩ :=
    exists_shares count (ClassGroup.sortForAssignment (ClassGroup.ofRecords records))
  refine ⟨shares, ?_, hlength, hperm.trans (ClassGroup.sortForAssignment_perm _)⟩
  rw [plan, assign_eq_linearScan, hshares]

theorem numbers_plan (count : BatchCount) (records : List TestRecord) :
    (plan count records).map (·.number) = List.range' 1 count.value := by
  obtain ⟨shares, hshares, hlength, _⟩ := exists_shares_plan count records
  rw [hshares, numbers_batchesOf, hlength]

theorem flatMap_tests_plan (count : BatchCount) (records : List TestRecord) :
    ((plan count records).flatMap (·.tests)).Perm records := by
  obtain ⟨shares, hshares, _, hperm⟩ := exists_shares_plan count records
  rw [hshares, flatMap_tests_batchesOf]
  exact (hperm.flatMap_right _).trans (ClassGroup.flatMap_tests_ofRecords records)

theorem plan_class_whole (count : BatchCount) {records : List TestRecord} {t : TestRecord}
    (ht : t ∈ records) :
    ∃ b ∈ plan count records,
      (∃ before after,
        b.tests = before ++ records.filter (·.classname = t.classname) ++ after ∧
          ∀ u ∈ before ++ after, u.classname ≠ t.classname) ∧
        ∀ c ∈ plan count records, c ≠ b → ∀ u ∈ c.tests, u.classname ≠ t.classname := by
  obtain ⟨shares, hshares, _, hperm⟩ := exists_shares_plan count records
  rw [hshares]
  exact class_whole_of_shares hperm ht

theorem nanos_total_plan {count : BatchCount} {records : List TestRecord} {b : Batch}
    (hb : b ∈ plan count records) :
    b.total.nanos = min (b.tests.map (·.duration.nanos)).sum Duration.longest.nanos := by
  obtain ⟨shares, hshares, _, _⟩ := exists_shares_plan count records
  rw [hshares] at hb
  obtain ⟨i, hi, rfl⟩ := mem_batchesOf.mp hb
  rw [Batch.total_addAll_empty, Duration.nanos_sum, List.map_map]
  rfl

/-- Every plan of any records, whatever their classes and times, is a plan indeed. -/
theorem plan_isPlan (count : BatchCount) (records : List TestRecord) :
    IsPlan count records (plan count records) where
  numbers := numbers_plan count records
  records_perm := flatMap_tests_plan count records
  class_whole _ ht := plan_class_whole count ht
  totals _ hb := nanos_total_plan hb

end SuiteSplit

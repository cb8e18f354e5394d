import SuiteSplit.Manifest.Fingerprint
import SuiteSplit.Proofs.LinearScan

/-!
The order in which records and groups come in. Sorting for assignment leaves no choice between groups
of different keys, and a group keeps its key and its total however its records are ordered. So records
in another order are placed alike: each batch keeps its number, its total and its classes, and only the
records of one class may change places. Records that are sorted first leave no freedom at all.
-/

namespace SuiteSplit

theorem Duration.sum_perm {ds es : List Duration} (h : ds.Perm es) : sum ds = sum es := by
  apply ext
  rw [nanos_sum, nanos_sum, (h.map nanos).sum_eq]

/-! ## The order of records -/

instance : Std.TransOrd Duration where
  eq_swap := Std.OrientedOrd.eq_swap (α := Nat)
  isLE_trans := Std.TransOrd.isLE_trans (α := Nat)

instance : Std.LawfulEqOrd Duration where
  compare_self := Std.ReflOrd.compare_self (α := Nat)
  eq_of_compare h := Duration.ext (Std.LawfulEqOrd.eq_of_compare (α := Nat) h)

instance : Std.TransOrd Outcome where
  eq_swap := Std.OrientedOrd.eq_swap (α := Nat)
  isLE_trans := Std.TransOrd.isLE_trans (α := Nat)

instance : Std.LawfulEqOrd Outcome where
  compare_self := Std.ReflOrd.compare_self (α := Nat)
  eq_of_compare {a b} h := by
    have hrank : a.rank = b.rank := Std.LawfulEqOrd.eq_of_compare (α := Nat) h
    cases a <;> cases b <;> first | rfl | cases hrank

namespace TestRecord

/-- Records compare by their class, name, duration and outcome, the first difference counting. -/
instance : Std.TransCmp TestRecord.compare :=
  inferInstanceAs (Std.TransCmp (compareLex (compareOn TestRecord.classname)
    (compareLex (compareOn TestRecord.name)
      (compareLex (compareOn TestRecord.duration) (compareOn TestRecord.outcome)))))

theorem eq_of_compare {t u : TestRecord} (h : compare t u = .eq) : t = u := by
  simp only [compare, Ordering.then_eq_eq, Std.LawfulEqOrd.compare_eq_iff_eq] at h
  obtain ⟨hclassname, hname, hduration, houtcome⟩ := h
  cases t
  cases u
  simp_all only

/-- Sorted records do not tell in which order they came. -/
theorem sorted_eq_of_perm {ts us : List TestRecord} (h : ts.Perm us) : sorted ts = sorted us := by
  have hordered (vs : List TestRecord) : (sorted vs).Pairwise fun t u => (compare t u).isLE := by
    apply List.pairwise_mergeSort
    · intro a b c
      exact Std.TransCmp.isLE_trans
    · intro a b
      have hswap : compare b a = (compare a b).swap := Std.OrientedCmp.eq_swap
      rw [hswap]
      cases compare a b <;> rfl
  have hperm : (sorted ts).Perm (sorted us) :=
    (List.mergeSort_perm ..).trans (h.trans (List.mergeSort_perm ..).symm)
  refine hperm.eq_of_pairwise ?_ (hordered ts) (hordered us)
  intro t u _ _ htu hut
  exact eq_of_compare (Std.OrientedCmp.isLE_antisymm htu hut)

end TestRecord

/-! ## Groups that come in another order -/

namespace ClassGroup

/-- Groups of different keys that stand in assignment order are sorted. -/
theorem eq_sortForAssignment {gs sorted : List ClassGroup} (hkeys : (gs.map (·.key)).Nodup)
    (hperm : sorted.Perm gs) (hordered : sorted.Pairwise fun g h => g.precedes h) :
    sorted = sortForAssignment gs := by
  have hboth := hperm.trans (sortForAssignment_perm gs).symm
  refine hboth.eq_of_pairwise ?_ hordered (pairwise_precedes gs)
  intro g h hg hh hgh hhg
  have hkey : g.key = h.key := by
    rw [precedes_iff] at hgh hhg
    simp only [Duration.lt_iff_nanos, Duration.ext_iff] at hgh hhg
    rcases hgh with hlt | ⟨htotal, hle⟩ <;> rcases hhg with hlt' | ⟨htotal', hle'⟩
    · omega
    · omega
    · omega
    · exact String.le_antisymm hle hle'
  exact List.inj_on_of_nodup_map hkeys (hperm.mem_iff.mp hg)
    ((sortForAssignment_perm gs).mem_iff.mp hh) hkey

theorem sortForAssignment_eq_of_perm {gs hs : List ClassGroup} (hkeys : (gs.map (·.key)).Nodup)
    (hperm : gs.Perm hs) : sortForAssignment gs = sortForAssignment hs := by
  apply eq_sortForAssignment ((hperm.map _).nodup_iff.mp hkeys)
    ((sortForAssignment_perm gs).trans hperm)
  exact pairwise_precedes gs

/-- One group with its records in two orders. -/
structure Alike (g h : ClassGroup) : Prop where
  key_eq : g.key = h.key
  tests_perm : g.tests.Perm h.tests
  classnames_eq : g.tests.map (·.classname) = h.tests.map (·.classname)

theorem Alike.total_eq {g h : ClassGroup} (halike : Alike g h) : g.total = h.total :=
  Duration.sum_perm (halike.tests_perm.map _)

section

variable {records records' : List TestRecord}

theorem alike_ofClass (h : records.Perm records') (classname : String) :
    Alike (ofClass records classname) (ofClass records' classname) := by
  have hperm := h.filter (·.classname = classname)
  have hsame (ts : List TestRecord) : (ts.filter (·.classname = classname)).map (·.classname) =
      List.replicate (ts.filter (·.classname = classname)).length classname := by
    rw [List.eq_replicate_iff, List.length_map]
    refine ⟨rfl, ?_⟩
    intro c hc
    obtain ⟨t, ht, rfl⟩ := List.mem_map.mp hc
    exact of_decide_eq_true (List.mem_filter.mp ht).2
  refine ⟨rfl, hperm, ?_⟩
  rw [ofClass, ofClass, hsame, hsame, hperm.length_eq]

/-- The groups of records in another order are the same groups in the same order. -/
theorem ofRecords_eq_map (h : records.Perm records') :
    ofRecords records' = (ofRecords records).map fun g => ofClass records' g.key := by
  let classes (ts : List TestRecord) : List String := (ts.map (·.classname)).eraseDups
  have hclasses : (classes records).Perm (classes records') := by
    rw [List.perm_ext_iff_of_nodup (nodup_eraseDups _) (nodup_eraseDups _)]
    intro c
    rw [List.mem_eraseDups, List.mem_eraseDups, (h.map _).mem_iff]
  have hkeys : (((classes records').map (ofClass records')).map (·.key)).Nodup := by
    rw [List.map_map]
    exact (nodup_eraseDups _).map fun _ _ hsame => hsame
  refine (eq_sortForAssignment hkeys ?_ ?_).symm
  · have hgroups := (ofRecords_perm records).map fun g => ofClass records' g.key
    rw [List.map_map] at hgroups
    exact hgroups.trans (hclasses.map _)
  · refine List.pairwise_map.mpr (List.Pairwise.imp_of_mem ?_ (pairwise_precedes _))
    intro g k hg hk hgk
    have hgAlike := alike_ofClass h g.key
    have hkAlike := alike_ofClass h k.key
    rw [← eq_ofClass_of_mem_ofRecords hg] at hgAlike
    rw [← eq_ofClass_of_mem_ofRecords hk] at hkAlike
    rw [precedes_iff] at hgk ⊢
    rwa [← hgAlike.total_eq, ← hkAlike.total_eq]

theorem alike_ofRecords (h : records.Perm records') :
    List.Forall₂ Alike (ofRecords records) (ofRecords records') := by
  rw [ofRecords_eq_map h, List.forall₂_map_right_iff, List.forall₂_same]
  intro g hg
  have halike := alike_ofClass h g.key
  rwa [← eq_ofClass_of_mem_ofRecords hg] at halike

end

end ClassGroup

/-! ## Batches of groups that come in another order -/

namespace Batch

/-- One batch with the records of each class in two orders. -/
structure Alike (b c : Batch) : Prop where
  number_eq : b.number = c.number
  total_eq : b.total = c.total
  tests_perm : b.tests.Perm c.tests
  classnames_eq : b.tests.map (·.classname) = c.tests.map (·.classname)

theorem Alike.refl (b : Batch) : Alike b b := ⟨rfl, rfl, .refl _, rfl⟩

theorem Alike.add {b c : Batch} {g h : ClassGroup} (hbatch : Alike b c)
    (hgroup : ClassGroup.Alike g h) : Alike (b.add g) (c.add h) where
  number_eq := hbatch.number_eq
  total_eq := by rw [total_add, total_add, hbatch.total_eq, hgroup.total_eq]
  tests_perm := hbatch.tests_perm.append hgroup.tests_perm
  classnames_eq := by
    rw [tests_add, tests_add, List.map_append, List.map_append, hbatch.classnames_eq,
      hgroup.classnames_eq]

/-- Which batch is next depends on the totals only. -/
theorem leastLoaded_eq_of_totals {bs cs : List Batch} (h : bs.map (·.total) = cs.map (·.total)) :
    leastLoaded bs = leastLoaded cs := by
  have hscan (ds : List Batch) : leastLoaded ds =
      (ds.map (·.total)).findIdx fun d => (ds.map (·.total)).all fun e => d ≤ e := by
    rw [leastLoaded, List.findIdx_map]
    simp only [Function.comp_def, List.all_map]
  rw [hscan, hscan, h]

private theorem forall₂_modify {bs cs : List Batch} {f f' : Batch → Batch}
    (h : List.Forall₂ Alike bs cs) (hf : ∀ b c, Alike b c → Alike (f b) (f' c)) (i : Nat) :
    List.Forall₂ Alike (bs.modify i f) (cs.modify i f') := by
  induction h generalizing i with
  | nil =>
    rw [List.modify_nil, List.modify_nil]
    exact .nil
  | cons hhead htail ih =>
    cases i with
    | zero => exact .cons (hf _ _ hhead) htail
    | succ i => exact .cons hhead (ih i)

/-- One step: alike groups go to the same place. -/
theorem Alike.addToLeast {bs cs : List Batch} {g h : ClassGroup}
    (hbatches : List.Forall₂ Alike bs cs) (hgroup : ClassGroup.Alike g h) :
    List.Forall₂ Alike (addToLeast bs g) (addToLeast cs h) := by
  have htotals : bs.map (·.total) = cs.map (·.total) := by
    rw [← List.forall₂_eq_eq_eq, List.forall₂_map_left_iff, List.forall₂_map_right_iff]
    exact hbatches.imp fun _ _ halike => halike.total_eq
  rw [Batch.addToLeast, Batch.addToLeast, leastLoaded_eq_of_totals htotals]
  apply forall₂_modify hbatches
  intro b c hbatch
  exact hbatch.add hgroup

/-- All steps: alike groups, one after the other, lead to alike batches. -/
theorem Alike.foldl_addToLeast {gs hs : List ClassGroup}
    (hgroups : List.Forall₂ ClassGroup.Alike gs hs) {bs cs : List Batch}
    (hbatches : List.Forall₂ Alike bs cs) :
    List.Forall₂ Alike (gs.foldl Batch.addToLeast bs) (hs.foldl Batch.addToLeast cs) := by
  induction hgroups generalizing bs cs with
  | nil => exact hbatches
  | cons hgroup _ ih => exact ih (Alike.addToLeast hbatches hgroup)

end Batch

/-! ## Plans -/

theorem plan_eq_linearScan (count : BatchCount) (records : List TestRecord) :
    plan count records = Assignment.linearScan count (ClassGroup.ofRecords records) := by
  have hsorted : ClassGroup.sortForAssignment (ClassGroup.ofRecords records) =
      ClassGroup.ofRecords records :=
    List.mergeSort_of_pairwise (ClassGroup.pairwise_precedes _)
  rw [plan, assign_eq_linearScan, hsorted]

theorem alike_plan {records records' : List TestRecord} (h : records.Perm records')
    (count : BatchCount) : List.Forall₂ Batch.Alike (plan count records) (plan count records') := by
  rw [plan_eq_linearScan, plan_eq_linearScan]
  apply Batch.Alike.foldl_addToLeast (ClassGroup.alike_ofRecords h)
  exact List.forall₂_same.mpr fun b _ => Batch.Alike.refl b

/-- The order of the input does not decide the plan. Records in another order give batches of the
same numbers, totals and classes, with the same records; once the records are sorted, the plan is
the same, and so is its fingerprint. Groups of different keys are assigned in one way. -/
theorem plan_of_perm (count : BatchCount) :
    (∀ records records' : List TestRecord, records.Perm records' →
      List.Forall₂
          (fun b c => b.number = c.number ∧ b.total = c.total ∧ b.classnames = c.classnames ∧
            b.tests.Perm c.tests)
          (plan count records) (plan count records') ∧
        plan count (TestRecord.sorted records) = plan count (TestRecord.sorted records') ∧
        Batch.fingerprint (plan count (TestRecord.sorted records)) =
          Batch.fingerprint (plan count (TestRecord.sorted records'))) ∧
    ∀ groups groups' : List ClassGroup, groups.Perm groups' → (groups.map (·.key)).Nodup →
      assign count groups = assign count groups' := by
  constructor
  · intro records records' hperm
    rw [TestRecord.sorted_eq_of_perm hperm]
    refine ⟨(alike_plan hperm count).imp ?_, rfl, rfl⟩
    intro b c halike
    refine ⟨halike.number_eq, halike.total_eq, ?_, halike.tests_perm⟩
    rw [Batch.classnames, Batch.classnames, halike.classnames_eq]
  · intro groups groups' hperm hkeys
    rw [assign_eq_linearScan, assign_eq_linearScan,
      ClassGroup.sortForAssignment_eq_of_perm hkeys hperm]

/-- Two classes of one total, the records of one of them in two orders, for two batches. -/
theorem plan_of_swapped_records :
    let two : BatchCount := ⟨2, by decide, by decide⟩
    let a : TestRecord := ⟨"A", "a", .ofNanos 3, .successful⟩
    let b : TestRecord := ⟨"A", "b", .ofNanos 4, .failed⟩
    let c : TestRecord := ⟨"B", "c", .ofNanos 7, .skipped⟩
    (List.Forall₂
        (fun x y => x.number = y.number ∧ x.total = y.total ∧ x.classnames = y.classnames ∧
          x.tests.Perm y.tests)
        (plan two [a, b, c]) (plan two [c, b, a]) ∧
      Batch.fingerprint (plan two (TestRecord.sorted [a, b, c])) =
        Batch.fingerprint (plan two (TestRecord.sorted [c, b, a]))) ∧
    assign two [⟨"A", [a]⟩, ⟨"B", [c]⟩] = assign two [⟨"B", [c]⟩, ⟨"A", [a]⟩] := by
  intro two a b c
  obtain ⟨hrecords, hgroups⟩ := plan_of_perm two
  obtain ⟨halike, -, hfingerprint⟩ := hrecords [a, b, c] [c, b, a] (by decide)
  exact ⟨⟨halike, hfingerprint⟩, hgroups _ _ (List.Perm.swap ..) (by decide)⟩

end SuiteSplit

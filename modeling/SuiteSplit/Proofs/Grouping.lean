import SuiteSplit.ClassGroup
import SuiteSplit.Proofs.Duration

/-!
Assignment order and the groups of a list of records. Sorting for assignment is a stable sort by
descending total and ascending key, which pins its result down completely. The groups of a list of
records carry every record exactly once, each under its own class.
-/

namespace SuiteSplit.ClassGroup

private theorem isLE_compare_iff (a b : String) : (compare a b).isLE ↔ a ≤ b := by
  change (compareOfLessAndEq a b).isLE ↔ a ≤ b
  exact isLE_compareOfLessAndEq String.le_antisymm String.not_le String.le_total

theorem precedes_iff (g h : ClassGroup) :
    g.precedes h ↔ h.total < g.total ∨ (g.total = h.total ∧ g.key ≤ h.key) := by
  have hlt : compare h.total g.total = .lt ↔ h.total < g.total := by
    exact Nat.compare_eq_lt
  have heq : compare h.total g.total = .eq ↔ g.total = h.total := by
    rw [Duration.ext_iff]
    exact Nat.compare_eq_eq.trans eq_comm
  rw [precedes, Ordering.isLE_then_iff_or, hlt, heq, isLE_compare_iff]

theorem precedes_trans (f g h : ClassGroup) (hfg : f.precedes g) (hgh : g.precedes h) :
    f.precedes h := by
  rw [precedes_iff] at hfg hgh ⊢
  simp only [Duration.lt_iff_nanos, Duration.ext_iff] at hfg hgh ⊢
  rcases hfg with hfg | ⟨hfg, hkey⟩
  · rcases hgh with hgh | ⟨hgh, _⟩
    · exact Or.inl (by omega)
    · exact Or.inl (by omega)
  · rcases hgh with hgh | ⟨hgh, hkey'⟩
    · exact Or.inl (by omega)
    · exact Or.inr ⟨by omega, String.le_trans hkey hkey'⟩

theorem precedes_total (g h : ClassGroup) : g.precedes h || h.precedes g := by
  rw [Bool.or_eq_true, precedes_iff, precedes_iff]
  simp only [Duration.lt_iff_nanos, Duration.ext_iff]
  rcases Nat.lt_trichotomy g.total.nanos h.total.nanos with hlt | heq | hgt
  · exact Or.inr (Or.inl hlt)
  · rcases String.le_total g.key h.key with hkey | hkey
    · exact Or.inl (Or.inr ⟨heq, hkey⟩)
    · exact Or.inr (Or.inr ⟨heq.symm, hkey⟩)
  · exact Or.inl (Or.inl hgt)

def Tied (g h : ClassGroup) : Prop := g.total = h.total ∧ g.key = h.key

instance (g h : ClassGroup) : Decidable (g.Tied h) := inferInstanceAs (Decidable (_ ∧ _))

/-- A stable sort: the same groups by descending total and ascending key, and groups that tie in
their old order. -/
structure StablySorted (gs sorted : List ClassGroup) : Prop where
  perm : sorted.Perm gs
  ordered : sorted.Pairwise fun g h =>
    h.total < g.total ∨ (g.total = h.total ∧ g.key ≤ h.key)
  stable : ∀ g : ClassGroup, sorted.filter (g.Tied ·) = gs.filter (g.Tied ·)

theorem sortForAssignment_perm (gs : List ClassGroup) : (sortForAssignment gs).Perm gs :=
  List.mergeSort_perm gs precedes

theorem pairwise_precedes (gs : List ClassGroup) :
    (sortForAssignment gs).Pairwise (fun g h => g.precedes h) :=
  List.pairwise_mergeSort precedes_trans precedes_total gs

theorem stablySorted_sortForAssignment (gs : List ClassGroup) :
    StablySorted gs (sortForAssignment gs) where
  perm := sortForAssignment_perm gs
  ordered := (pairwise_precedes gs).imp fun {g h} hgh => (precedes_iff g h).mp hgh
  stable g := by
    -- the tied groups are in order as they stand, so sorting keeps them as a sublist
    have htied : (gs.filter (g.Tied ·)).Pairwise (fun a b => a.precedes b) := by
      apply List.pairwise_of_forall_mem_list
      intro a ha b hb
      have ha' : g.Tied a := by simpa using (List.mem_filter.mp ha).2
      have hb' : g.Tied b := by simpa using (List.mem_filter.mp hb).2
      rw [precedes_iff]
      exact Or.inr ⟨ha'.1.symm.trans hb'.1, (ha'.2.symm.trans hb'.2) ▸ String.le_refl _⟩
    have hsub : (gs.filter (g.Tied ·)).Sublist (sortForAssignment gs) :=
      List.sublist_mergeSort precedes_trans precedes_total htied List.filter_sublist
    have hfilter := hsub.filter (fun h => decide (g.Tied h))
    rw [List.filter_filter] at hfilter
    simp only [Bool.and_self] at hfilter
    exact (hfilter.eq_of_length ((sortForAssignment_perm gs).filter _).length_eq.symm).symm

/-- The `i`-th largest total of the groups, from zero, and no time where there are fewer groups. -/
def nthLongest (gs : List ClassGroup) (i : Nat) : Duration :=
  ((gs.map (·.total)).mergeSort fun d e => e ≤ d)[i]?.getD .zero

private theorem map_total_sortForAssignment (gs : List ClassGroup) :
    (sortForAssignment gs).map (·.total) = (gs.map (·.total)).mergeSort fun d e => e ≤ d := by
  have hperm := ((sortForAssignment_perm gs).map (·.total)).trans
    (List.mergeSort_perm (gs.map (·.total)) fun d e => e ≤ d).symm
  have hgroups : ((sortForAssignment gs).map (·.total)).Pairwise fun d e => e ≤ d := by
    refine List.pairwise_map.mpr ((stablySorted_sortForAssignment gs).ordered.imp ?_)
    intro g h hgh
    simp only [Duration.le_iff_nanos, Duration.lt_iff_nanos, Duration.ext_iff] at hgh ⊢
    omega
  have htotals : ((gs.map (·.total)).mergeSort fun d e => e ≤ d).Pairwise
      fun d e : Duration => e ≤ d := by
    refine (List.pairwise_mergeSort ?_ ?_ (gs.map (·.total))).imp ?_
    · intro a b c hab hbc
      simp only [decide_eq_true_eq, Duration.le_iff_nanos] at hab hbc ⊢
      omega
    · intro a b
      simp only [Bool.or_eq_true, decide_eq_true_eq, Duration.le_iff_nanos]
      omega
    · intro d e hde
      exact of_decide_eq_true hde
  refine List.Perm.eq_of_pairwise ?_ hgroups htotals hperm
  intro d e _ _ hde hed
  exact Duration.ext (Nat.le_antisymm hed hde)

theorem nthLongest_eq (gs : List ClassGroup) (i : Nat) :
    nthLongest gs i = ((sortForAssignment gs)[i]?.map (·.total)).getD .zero := by
  rw [nthLongest, ← map_total_sortForAssignment, List.getElem?_map]

/-! The groups of a list of records. -/

theorem nodup_eraseDups (cs : List String) : cs.eraseDups.Nodup := by
  induction hlen : cs.length using Nat.strongRecOn generalizing cs with
  | ind n ih =>
    cases cs with
    | nil => simp
    | cons c cs =>
      have hshorter : (cs.filter fun b => !b == c).length < n := by
        have hle := List.length_filter_le (fun b => !b == c) cs
        rw [List.length_cons] at hlen
        omega
      rw [List.eraseDups_cons, List.nodup_cons]
      refine ⟨?_, ih _ hshorter _ rfl⟩
      simp [List.mem_eraseDups]

/-- The groups of some classes, all different, carry the records of these classes and no others. -/
private theorem flatMap_ofClass_perm (records : List TestRecord) (cs : List String)
    (hnodup : cs.Nodup) :
    (cs.flatMap fun c => (ofClass records c).tests).Perm
      (records.filter (·.classname ∈ cs)) := by
  induction cs with
  | nil => simp
  | cons c cs ih =>
    obtain ⟨hc, hcs⟩ := List.nodup_cons.mp hnodup
    have hsplit := List.filter_append_perm (fun t => decide (t.classname = c))
      (records.filter (·.classname ∈ c :: cs))
    have hfirst : (records.filter (·.classname ∈ c :: cs)).filter (·.classname = c) =
        (ofClass records c).tests := by
      rw [ofClass, List.filter_filter]
      apply List.filter_congr
      intro t _
      by_cases h : t.classname = c <;> simp [h]
    have hrest : (records.filter (·.classname ∈ c :: cs)).filter
        (fun t => !decide (t.classname = c)) = records.filter (·.classname ∈ cs) := by
      rw [List.filter_filter]
      apply List.filter_congr
      intro t _
      by_cases h : t.classname = c <;> simp [h, hc]
    rw [hfirst, hrest] at hsplit
    rw [List.flatMap_cons]
    exact ((ih hcs).append_left _).trans hsplit

theorem ofRecords_perm (records : List TestRecord) :
    (ofRecords records).Perm ((records.map (·.classname)).eraseDups.map (ofClass records)) :=
  sortForAssignment_perm _

theorem eq_ofClass_of_mem_ofRecords {records : List TestRecord} {g : ClassGroup}
    (hg : g ∈ ofRecords records) : g = ofClass records g.key := by
  obtain ⟨c, _, rfl⟩ := List.mem_map.mp ((ofRecords_perm records).mem_iff.mp hg)
  rfl

theorem ofClass_mem_ofRecords {records : List TestRecord} {t : TestRecord} (ht : t ∈ records) :
    ofClass records t.classname ∈ ofRecords records := by
  apply (ofRecords_perm records).mem_iff.mpr
  apply List.mem_map_of_mem
  exact List.mem_eraseDups.mpr (List.mem_map_of_mem ht)

theorem nodup_keys_ofRecords (records : List TestRecord) :
    ((ofRecords records).map (·.key)).Nodup := by
  have hkeys : ((ofRecords records).map (·.key)).Perm
      (records.map (·.classname)).eraseDups := by
    have hmap := (ofRecords_perm records).map (·.key)
    rw [List.map_map] at hmap
    exact hmap.trans (List.Perm.of_eq (List.map_id _))
  exact hkeys.nodup_iff.mpr (nodup_eraseDups _)

/-- The groups carry every record once. -/
theorem flatMap_tests_ofRecords (records : List TestRecord) :
    ((ofRecords records).flatMap (·.tests)).Perm records := by
  have hgroups := (ofRecords_perm records).flatMap_right (·.tests)
  have hclasses := flatMap_ofClass_perm records _ (nodup_eraseDups (records.map (·.classname)))
  rw [List.flatMap_map] at hgroups
  refine hgroups.trans (hclasses.trans (List.Perm.of_eq ?_))
  apply List.filter_eq_self.mpr
  intro t ht
  simpa using ⟨t, ht, rfl⟩

end SuiteSplit.ClassGroup

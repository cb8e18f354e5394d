import SuiteSplit.Proofs.LinearScan

/-!
More batches or less work never lengthen the longest batch. The two assignments place their groups
on different batches, so the batches are not compared one by one. What is kept from step to step is
that, past any bound within which the busier side still has a batch, the other side has no more
batches than that side has.
-/

namespace SuiteSplit

open Assignment

def Batch.above (d : Duration) (bs : List Batch) : Nat := bs.countP fun b => d < b.total

/-- Where some batch of `bs` is within a bound, no more batches of `bs'` than of `bs` pass it. -/
def Dominated (bs' bs : List Batch) : Prop :=
  ∀ d, (∃ b ∈ bs, b.total ≤ d) → Batch.above d bs' ≤ Batch.above d bs

namespace Batch

theorem above_append (d : Duration) (before : List Batch) (b : Batch) (after : List Batch) :
    above d (before ++ b :: after) =
      above d before + above d after + if d < b.total then 1 else 0 := by
  simp only [above, List.countP_append, List.countP_cons, decide_eq_true_eq]
  omega

theorem above_eq_zero_iff (d : Duration) (bs : List Batch) :
    above d bs = 0 ↔ ∀ b ∈ bs, b.total ≤ d := by
  simp [above, List.countP_eq_zero, Duration.le_iff_nanos, Duration.lt_iff_nanos]

theorem above_lt_length_iff (d : Duration) (bs : List Batch) :
    above d bs < bs.length ↔ ∃ b ∈ bs, b.total ≤ d := by
  have hle : above d bs ≤ bs.length := List.countP_le_length
  have hall : above d bs = bs.length ↔ ∀ b ∈ bs, d < b.total := by
    simp [above, List.countP_eq_length]
  constructor
  · intro hlt
    by_contra hnone
    refine Nat.ne_of_lt hlt (hall.mpr ?_)
    intro b hb
    by_contra hb'
    exact hnone ⟨b, hb, Nat.le_of_not_lt hb'⟩
  · rintro ⟨b, hb, hbd⟩
    refine Nat.lt_of_le_of_ne hle ?_
    intro heq
    exact Nat.not_lt.mpr hbd (hall.mp heq b hb)

end Batch

namespace Dominated

variable {bs bs' before before' after after' : List Batch} {b b' c c' : Batch}

/-- With at least as many batches, the least loaded one is no busier. -/
theorem least_le (h : Dominated (before' ++ b' :: after') (before ++ b :: after))
    (hlength : (before ++ b :: after).length ≤ (before' ++ b' :: after').length)
    (hleast' : Batch.IsLeast before' b' after') : b'.total ≤ b.total := by
  have hb : ∃ c ∈ before ++ b :: after, c.total ≤ b.total := ⟨b, by simp, Nat.le_refl _⟩
  have hlt := (Batch.above_lt_length_iff _ _).mpr hb
  obtain ⟨c, hc, hcb⟩ := (Batch.above_lt_length_iff _ _).mp
    (Nat.lt_of_le_of_lt (h _ hb) (Nat.lt_of_lt_of_le hlt hlength))
  exact Nat.le_trans (hleast'.le c hc) hcb

/-- One step on both sides: batches take the place of the least loaded ones, with a total that has
grown on the busier side and has not come to exceed it on the other. -/
theorem step (h : Dominated (before' ++ b' :: after') (before ++ b :: after))
    (hleast : Batch.IsLeast before b after) (hgrown : b.total ≤ c.total) (hc : c'.total ≤ c.total) :
    Dominated (before' ++ c' :: after') (before ++ c :: after) := by
  intro d hd
  have hbd : b.total ≤ d := by
    obtain ⟨x, hx, hxd⟩ := hd
    rcases List.mem_append.mp hx with hx | hx
    · exact Nat.le_trans (hleast.le x (by simp [hx])) hxd
    rcases List.mem_cons.mp hx with rfl | hx
    · exact Nat.le_trans hgrown hxd
    · exact Nat.le_trans (hleast.le x (by simp [hx])) hxd
  have hold := h d ⟨b, by simp, hbd⟩
  rw [Batch.above_append, Batch.above_append] at hold ⊢
  simp only [Duration.le_iff_nanos, Duration.lt_iff_nanos] at hbd hc hold ⊢
  split at hold <;> split at hold <;> split <;> split <;> omega

theorem makespan_le (h : Dominated bs' bs) (hne : bs ≠ []) :
    Batch.makespan bs' ≤ Batch.makespan bs := by
  obtain ⟨b, hb⟩ := List.exists_mem_of_ne_nil bs hne
  have hold := h (Batch.makespan bs) ⟨b, hb, Batch.total_le_makespan hb⟩
  have hnone : Batch.above (Batch.makespan bs) bs = 0 := by
    rw [Batch.above_eq_zero_iff]
    intro b hb
    exact Batch.total_le_makespan hb
  rw [hnone, Nat.le_zero, Batch.above_eq_zero_iff] at hold
  exact (Batch.makespan_le_iff _ _).mpr hold

end Dominated

/-- A group that is missing changes nothing, as one without time would. -/
private theorem linearScan_option (count : BatchCount) (gs : List ClassGroup)
    (g : Option ClassGroup) :
    ∃ before b after c, linearScan count gs = before ++ b :: after ∧
      Batch.IsLeast before b after ∧ linearScan count (gs ++ g.toList) = before ++ c :: after ∧
        c.total = b.total + (g.map (·.total)).getD .zero := by
  cases g with
  | none =>
    obtain ⟨before, b, after, hsplit, hleast, _⟩ := linearScan_concat count gs default
    exact ⟨before, b, after, b, hsplit, hleast, by simpa using hsplit, (Duration.add_zero _).symm⟩
  | some g =>
    obtain ⟨before, b, after, hsplit, hleast, hnext⟩ := linearScan_concat count gs g
    exact ⟨before, b, after, b.add g, hsplit, hleast, hnext, rfl⟩

/-- After as many groups on both sides, each no longer than its counterpart, the first assignment is
still dominated by the second. -/
private theorem dominated_linearScan {count count' : BatchCount} {gs gs' : List ClassGroup}
    (hcount : count.value ≤ count'.value)
    (hgroups : ∀ i : Nat, (gs'[i]?.map (·.total)).getD .zero ≤ (gs[i]?.map (·.total)).getD .zero)
    (k : Nat) : Dominated (linearScan count' (gs'.take k)) (linearScan count (gs.take k)) := by
  induction k with
  | zero =>
    intro d _
    rw [(Batch.above_eq_zero_iff d _).mpr]
    · exact Nat.zero_le _
    intro b hb
    obtain ⟨i, _, rfl⟩ := List.mem_map.mp hb
    exact Nat.zero_le _
  | succ k ih =>
    have hlength : (linearScan count (gs.take k)).length ≤
        (linearScan count' (gs'.take k)).length := by
      simpa using hcount
    obtain ⟨before, b, after, c, hsplit, hleast, hnext, hc⟩ :=
      linearScan_option count (gs.take k) gs[k]?
    obtain ⟨before', b', after', c', hsplit', hleast', hnext', hc'⟩ :=
      linearScan_option count' (gs'.take k) gs'[k]?
    rw [hsplit, hsplit'] at ih hlength
    have hle := ih.least_le hlength hleast'
    rw [List.take_add_one, List.take_add_one, hnext, hnext']
    have hk := hgroups k
    have hbound := b.total.nanos_le_longest
    refine ih.step hleast ?_ ?_
    · rw [hc, Duration.le_iff_nanos, Duration.nanos_add]
      omega
    · simp only [Duration.le_iff_nanos] at hle hk
      rw [hc, hc', Duration.le_iff_nanos, Duration.nanos_add, Duration.nanos_add]
      omega

/-- More batches and groups that are, in the order of their lengths, each no longer: the longest batch
takes no longer. A missing group counts as one without time. -/
theorem makespan_assign_mono {count count' : BatchCount} {groups groups' : List ClassGroup}
    (hcount : count.value ≤ count'.value)
    (hgroups : ∀ i, ClassGroup.nthLongest groups' i ≤ ClassGroup.nthLongest groups i) :
    Batch.makespan (assign count' groups') ≤ Batch.makespan (assign count groups) := by
  simp only [ClassGroup.nthLongest_eq] at hgroups
  rw [assign_eq_linearScan, assign_eq_linearScan]
  let k := groups.length + groups'.length
  have hrun := dominated_linearScan hcount hgroups k
  have hall : (ClassGroup.sortForAssignment groups).take k = ClassGroup.sortForAssignment groups :=
    List.take_of_length_le (by simp [ClassGroup.sortForAssignment, k])
  have hall' : (ClassGroup.sortForAssignment groups').take k =
      ClassGroup.sortForAssignment groups' :=
    List.take_of_length_le (by simp [ClassGroup.sortForAssignment, k])
  rw [hall, hall'] at hrun
  apply hrun.makespan_le
  rw [← List.length_pos_iff, length_linearScan]
  exact count.pos

/-- A third batch and one group less, where the loads reach the longest duration. -/
theorem makespan_le_with_third_batch :
    let two : BatchCount := ⟨2, by decide, by decide⟩
    let three : BatchCount := ⟨3, by decide, by decide⟩
    let busy : List ClassGroup :=
      [⟨"A", [⟨"A", "a", .longest, .failed⟩]⟩, ⟨"B", [⟨"B", "b", .longest, .successful⟩]⟩,
        ⟨"C", [⟨"C", "c", .ofNanos 9, .skipped⟩]⟩]
    let light : List ClassGroup :=
      [⟨"D", [⟨"D", "d", .longest, .successful⟩]⟩, ⟨"D", [⟨"D", "e", .ofNanos 9, .successful⟩]⟩]
    two.value ≤ three.value ∧
      (∀ i, ClassGroup.nthLongest light i ≤ ClassGroup.nthLongest busy i) ∧
        Batch.makespan (assign three light) ≤ Batch.makespan (assign two busy) := by
  intro two three busy light
  have hbusy : (busy.map (·.total)).mergeSort (fun d e => e ≤ d) = busy.map (·.total) :=
    List.mergeSort_of_pairwise (by decide)
  have hlight : (light.map (·.total)).mergeSort (fun d e => e ≤ d) = light.map (·.total) :=
    List.mergeSort_of_pairwise (by decide)
  have hgroups : ∀ i, ClassGroup.nthLongest light i ≤ ClassGroup.nthLongest busy i := by
    intro i
    rw [ClassGroup.nthLongest, ClassGroup.nthLongest, hbusy, hlight]
    rcases i with _ | _ | i
    · decide
    · decide
    · exact Nat.zero_le _
  exact ⟨by decide, hgroups, makespan_assign_mono (by decide) hgroups⟩

end SuiteSplit

import SuiteSplit.Batch
import SuiteSplit.Proofs.Duration

/-!
What adding groups does to a batch, and the scan for the batch to take next: the first one whose
total is smallest. Every list of batches that is not empty splits at that batch, and adding a group
to it changes nothing before and behind it.
-/

namespace SuiteSplit.Batch

@[simp] theorem number_add (b : Batch) (g : ClassGroup) : (b.add g).number = b.number := rfl

@[simp] theorem tests_add (b : Batch) (g : ClassGroup) : (b.add g).tests = b.tests ++ g.tests := rfl

@[simp] theorem total_add (b : Batch) (g : ClassGroup) : (b.add g).total = b.total + g.total := rfl

@[simp] theorem addAll_nil (b : Batch) : b.addAll [] = b := rfl

theorem addAll_cons (b : Batch) (g : ClassGroup) (gs : List ClassGroup) :
    b.addAll (g :: gs) = (b.add g).addAll gs := rfl

theorem addAll_concat (b : Batch) (gs : List ClassGroup) (g : ClassGroup) :
    b.addAll (gs ++ [g]) = (b.addAll gs).add g := by
  rw [addAll, List.foldl_append]
  rfl

@[simp] theorem number_addAll (b : Batch) (gs : List ClassGroup) :
    (b.addAll gs).number = b.number := by
  induction gs generalizing b with
  | nil => rfl
  | cons g gs ih => rw [addAll_cons, ih, number_add]

@[simp] theorem tests_addAll (b : Batch) (gs : List ClassGroup) :
    (b.addAll gs).tests = b.tests ++ gs.flatMap (·.tests) := by
  induction gs generalizing b with
  | nil => simp
  | cons g gs ih => rw [addAll_cons, ih, tests_add, List.flatMap_cons, List.append_assoc]

@[simp] theorem total_addAll (b : Batch) (gs : List ClassGroup) :
    (b.addAll gs).total = b.total + Duration.sum (gs.map (·.total)) := by
  induction gs generalizing b with
  | nil => simp [Duration.add_zero]
  | cons g gs ih =>
    rw [addAll_cons, ih, total_add, List.map_cons, Duration.sum_cons, Duration.add_assoc]

private theorem sum_totals (gs : List ClassGroup) :
    Duration.sum (gs.map (·.total)) = Duration.sum ((gs.flatMap (·.tests)).map (·.duration)) := by
  induction gs with
  | nil => rfl
  | cons g gs ih =>
    rw [List.map_cons, Duration.sum_cons, ih, List.flatMap_cons, List.map_append,
      Duration.sum_append]
    rfl

/-- The total of a batch that was put together from groups is the sum of its tests' times. -/
theorem total_addAll_empty (number : Nat) (gs : List ClassGroup) :
    ((empty number).addAll gs).total =
      Duration.sum (((empty number).addAll gs).tests.map (·.duration)) := by
  rw [total_addAll, tests_addAll, sum_totals]
  exact Duration.zero_add _

/-- The total of such a batch is the exact sum of its groups' totals, cut at the longest
duration. -/
theorem nanos_total_addAll_empty (number : Nat) (gs : List ClassGroup) :
    ((empty number).addAll gs).total.nanos =
      min (gs.map (·.total.nanos)).sum Duration.longest.nanos := by
  have htotal : ((empty number).addAll gs).total = Duration.sum (gs.map (·.total)) := by
    rw [total_addAll]
    exact Duration.zero_add _
  rw [htotal, Duration.nanos_sum, List.map_map]
  rfl

private theorem foldl_longest_le_iff (bs : List Batch) (start d : Duration) :
    bs.foldl (fun longest b => if longest ≤ b.total then b.total else longest) start ≤ d ↔
      start ≤ d ∧ ∀ b ∈ bs, b.total ≤ d := by
  induction bs generalizing start with
  | nil => simp
  | cons b bs ih =>
    rw [List.foldl_cons, ih, List.forall_mem_cons, ← and_assoc]
    apply and_congr_left
    intro _
    simp only [Duration.le_iff_nanos]
    split <;> omega

/-- The makespan is the least bound of the totals. -/
theorem makespan_le_iff (bs : List Batch) (d : Duration) :
    makespan bs ≤ d ↔ ∀ b ∈ bs, b.total ≤ d := by
  rw [makespan, foldl_longest_le_iff]
  simp [Duration.le_iff_nanos]

theorem total_le_makespan {bs : List Batch} {b : Batch} (hb : b ∈ bs) : b.total ≤ makespan bs :=
  (makespan_le_iff bs _).mp (Nat.le_refl _) b hb

/-! The scan for the batch to take next. -/

/-- The position of the first batch whose total is smallest. -/
def leastLoaded (bs : List Batch) : Nat :=
  bs.findIdx fun b => bs.all fun c => b.total ≤ c.total

/-- The batches with a group added to the first one whose total is smallest. -/
def addToLeast (bs : List Batch) (g : ClassGroup) : List Batch :=
  bs.modify (leastLoaded bs) (·.add g)

/-- `b` is the first batch whose total is smallest, between those before and behind it. -/
structure IsLeast (before : List Batch) (b : Batch) (after : List Batch) : Prop where
  le : ∀ c ∈ before ++ b :: after, b.total ≤ c.total
  lt_before : ∀ c ∈ before, b.total < c.total

theorem exists_isLeast {bs : List Batch} (hne : bs ≠ []) :
    ∃ before b after, bs = before ++ b :: after ∧ IsLeast before b after := by
  induction bs with
  | nil => exact absurd rfl hne
  | cons c bs ih =>
    by_cases hbs : bs = []
    · subst hbs
      exact ⟨[], c, [], rfl, by simp [Duration.le_iff_nanos], by simp⟩
    obtain ⟨before, b, after, rfl, hle, hlt⟩ := ih hbs
    simp only [Duration.le_iff_nanos, Duration.lt_iff_nanos] at hle hlt
    by_cases hc : c.total.nanos ≤ b.total.nanos
    · refine ⟨[], c, before ++ b :: after, rfl, ?_, by simp⟩
      intro x hx
      rw [Duration.le_iff_nanos]
      rcases List.mem_cons.mp hx with rfl | hx
      · exact Nat.le_refl _
      · exact Nat.le_trans hc (hle x hx)
    · refine ⟨c :: before, b, after, rfl, ?_, ?_⟩
      · intro x hx
        rw [Duration.le_iff_nanos]
        rcases List.mem_cons.mp hx with rfl | hx
        · omega
        · exact hle x hx
      · intro x hx
        rw [Duration.lt_iff_nanos]
        rcases List.mem_cons.mp hx with rfl | hx
        · omega
        · exact hlt x hx

theorem leastLoaded_eq_length {before : List Batch} {b : Batch} {after : List Batch}
    (h : IsLeast before b after) : leastLoaded (before ++ b :: after) = before.length := by
  have hlength : before.length < (before ++ b :: after).length := by simp
  rw [leastLoaded, List.findIdx_eq hlength]
  constructor
  · have hb : (before ++ b :: after)[before.length] = b := by simp
    rw [hb, List.all_eq_true]
    intro c hc
    exact decide_eq_true (h.le c hc)
  · intro j hj
    have hj' : (before ++ b :: after)[j] = before[j] := List.getElem_append_left hj
    have hlt := h.lt_before before[j] (List.getElem_mem hj)
    rw [hj', Bool.eq_false_iff]
    intro hall
    have hle := List.all_eq_true.mp hall b (by simp)
    simp only [decide_eq_true_eq, Duration.le_iff_nanos] at hle
    rw [Duration.lt_iff_nanos] at hlt
    omega

theorem leastLoaded_lt_length {bs : List Batch} (hne : bs ≠ []) :
    leastLoaded bs < bs.length := by
  obtain ⟨before, b, after, rfl, h⟩ := exists_isLeast hne
  rw [leastLoaded_eq_length h]
  simp

theorem addToLeast_append {before : List Batch} {b : Batch} {after : List Batch}
    (h : IsLeast before b after) (g : ClassGroup) :
    addToLeast (before ++ b :: after) g = before ++ b.add g :: after := by
  rw [addToLeast, leastLoaded_eq_length h, List.modify_eq_take_cons_drop (by simp)]
  simp

end SuiteSplit.Batch

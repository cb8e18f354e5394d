import SuiteSplit.Proofs.Batch
import SuiteSplit.Proofs.Grouping
import SuiteSplit.Proofs.LoadQueue

/-!
Assignment by a heap of loads is the linear scan for the least loaded batch. The heap and the batches
each keep the loads; the invariant says that they agree, one entry of the heap for each batch. Nothing
but the laws of a heap is used, so that any heap leads to the same batches.
-/

namespace SuiteSplit

structure Placing (heap : Heap BatchLoad BatchLoad.After) where
  loads : heap.State
  batches : List Batch

namespace Placing

variable {heap : Heap BatchLoad BatchLoad.After}

def start (heap : Heap BatchLoad BatchLoad.After) (count : BatchCount) : Placing heap where
  loads := heap.ofList (LoadQueue.idle count.value).loads
  batches := Assignment.emptyBatches count

/-- Raises the front of the heap and adds the group to the batch at its position. -/
def step? (p : Placing heap) (g : ClassGroup) : Option (Placing heap) :=
  (heap.front? p.loads).map fun (least, put) =>
    { loads := put ⟨least.load + g.total, least.position⟩
      batches := p.batches.modify least.position (·.add g) }

/-- Places groups one after the other, and no more once the heap is found empty. -/
def run (p : Placing heap) : List ClassGroup → Placing heap
  | [] => p
  | g :: gs =>
    match p.step? g with
    | none => p
    | some next => next.run gs

def entries (bs : List Batch) : List BatchLoad := bs.mapIdx fun i b => ⟨b.total, i⟩

/-- The heap holds exactly one entry for each batch, with the total of that batch as its load. -/
def InStep (p : Placing heap) : Prop := heap.contents p.loads = entries p.batches

theorem entries_append (before after : List Batch) :
    ∃ front rest, ∀ b, entries (before ++ b :: after) =
      front ++ ⟨b.total, before.length⟩ :: rest := by
  refine ⟨before.mapIdx fun i b => ⟨b.total, i⟩,
    after.mapIdx fun i b => ⟨b.total, i + 1 + before.length⟩, ?_⟩
  intro b
  rw [entries, List.mapIdx_append, List.mapIdx_cons, Nat.zero_add]

private theorem swap_heads (x y : BatchLoad) (front rest : List BatchLoad) :
    (y :: (front ++ x :: rest)).Perm (x :: (front ++ y :: rest)) := by
  have hx : (y :: (front ++ x :: rest)).Perm (y :: x :: (front ++ rest)) :=
    List.perm_middle.cons y
  have hy : (x :: (front ++ y :: rest)).Perm (x :: y :: (front ++ rest)) :=
    List.perm_middle.cons x
  exact hx.trans ((List.Perm.swap x y _).trans hy.symm)

theorem entries_emptyBatches (count : BatchCount) :
    entries (Assignment.emptyBatches count) = (LoadQueue.idle count.value).loads := by
  apply List.ext_getElem
  · simp [LoadQueue.idle, entries, Assignment.emptyBatches]
  · intro i _ _
    simp [LoadQueue.idle, entries, Assignment.emptyBatches, Batch.empty]

theorem start_inStep (heap : Heap BatchLoad BatchLoad.After) (count : BatchCount) :
    (start heap count).InStep := by
  rw [InStep, start, heap.contents_ofList, entries_emptyBatches]

/-- No entry precedes that of the first batch whose total is smallest, apart from itself. -/
theorem eq_of_precedes_least {before : List Batch} {b : Batch} {after : List Batch}
    (hleast : Batch.IsLeast before b after) {x : BatchLoad}
    (hx : x ∈ entries (before ++ b :: after)) (hprecedes : x.precedes ⟨b.total, before.length⟩) :
    x = ⟨b.total, before.length⟩ := by
  obtain ⟨i, hi, rfl⟩ := List.mem_mapIdx.mp hx
  have hle := hleast.le _ (List.getElem_mem hi)
  rw [BatchLoad.precedes_iff] at hprecedes
  simp only [Duration.le_iff_nanos, Duration.lt_iff_nanos] at hle hprecedes
  rcases hprecedes with hlt | ⟨htotal, hposition⟩
  · omega
  rcases Nat.lt_or_eq_of_le hposition with hearlier | hlast
  · -- an earlier batch would have a larger total
    have hlt := hleast.lt_before _ (List.getElem_mem hearlier)
    have hi' : (before ++ b :: after)[i] = before[i] := List.getElem_append_left hearlier
    rw [Duration.lt_iff_nanos, ← hi', htotal] at hlt
    exact absurd hlt (Nat.lt_irrefl _)
  · rw [htotal, hlast]

/-- Where heap and batches agree, the heap has a front, and it stands for the first batch whose total
is smallest. -/
theorem exists_front {p : Placing heap} (h : p.InStep) (hne : p.batches ≠ []) :
    ∃ before b after put, p.batches = before ++ b :: after ∧ Batch.IsLeast before b after ∧
      heap.front? p.loads = some (⟨b.total, before.length⟩, put) := by
  obtain ⟨before, b, after, hbatches, hleast⟩ := Batch.exists_isLeast hne
  obtain ⟨front, rest, hentries⟩ := entries_append before after
  have hcontents : heap.contents p.loads = entries (before ++ b :: after) := hbatches ▸ h
  have hb : (⟨b.total, before.length⟩ : BatchLoad) ∈ heap.contents p.loads := by
    rw [hcontents, hentries b]
    simp
  cases hfront : heap.front? p.loads with
  | none =>
    rw [heap.contents_of_front_none _ hfront] at hb
    exact absurd hb (Multiset.notMem_zero _)
  | some r =>
    obtain ⟨x, put⟩ := r
    have hx := heap.front_mem _ _ _ hfront
    rw [hcontents, Multiset.mem_coe] at hx
    obtain rfl := eq_of_precedes_least hleast hx (heap.le_front _ _ _ hfront _ hb)
    exact ⟨before, b, after, put, hbatches, hleast, rfl⟩

/-- One step: the heap has a front, the group goes to the first batch whose total is smallest, and
heap and batches agree again. -/
theorem step_inStep {p : Placing heap} (h : p.InStep) (hne : p.batches ≠ []) (g : ClassGroup) :
    ∃ next, p.step? g = some next ∧ next.InStep ∧ next.batches = Batch.addToLeast p.batches g := by
  obtain ⟨before, b, after, put, hbatches, hleast, hfront⟩ := exists_front h hne
  obtain ⟨front, rest, hentries⟩ := entries_append before after
  have hcontents : heap.contents p.loads = entries (before ++ b :: after) := hbatches ▸ h
  have hadd : p.batches.modify before.length (·.add g) = before ++ b.add g :: after := by
    rw [hbatches, List.modify_eq_take_cons_drop (by simp)]
    simp
  refine ⟨⟨put ⟨b.total + g.total, before.length⟩, p.batches.modify before.length (·.add g)⟩,
    by rw [step?, hfront]; rfl, ?_, ?_⟩
  · have hput := heap.contents_put _ _ _ hfront ⟨b.total + g.total, before.length⟩
    rw [hcontents, hentries b, Multiset.cons_coe] at hput
    rw [InStep, hadd, hentries (b.add g), Batch.total_add]
    apply (Multiset.cons_inj_right _).mp
    rw [hput, Multiset.cons_coe, Multiset.coe_eq_coe]
    exact swap_heads _ _ _ _
  · rw [hadd, hbatches, Batch.addToLeast_append hleast]

/-- Every group finds a front, and heap and batches agree after each of them. -/
theorem foldlM_inStep {p : Placing heap} (h : p.InStep) (hne : p.batches ≠ [])
    (gs : List ClassGroup) :
    ∃ last, gs.foldlM step? p = some last ∧ last.InStep ∧
      last.batches = gs.foldl Batch.addToLeast p.batches := by
  induction gs generalizing p with
  | nil => exact ⟨p, rfl, h, rfl⟩
  | cons g gs ih =>
    obtain ⟨next, hnext, hinStep, hbatches⟩ := step_inStep h hne g
    have hne' : next.batches ≠ [] := by
      rw [hbatches, Batch.addToLeast]
      simpa using hne
    obtain ⟨last, hlast, hlastInStep, hlastBatches⟩ := ih hinStep hne'
    refine ⟨last, ?_, hlastInStep, ?_⟩
    · rw [List.foldlM_cons, hnext]
      exact hlast
    · rw [hlastBatches, hbatches, List.foldl_cons]

theorem run_eq_of_foldlM {p last : Placing heap} {gs : List ClassGroup}
    (h : gs.foldlM step? p = some last) : p.run gs = last := by
  induction gs generalizing p with
  | nil => exact Option.some.inj h
  | cons g gs ih =>
    rw [List.foldlM_cons] at h
    obtain ⟨next, hnext, hrest⟩ := Option.bind_eq_some_iff.mp h
    rw [run, hnext]
    exact ih hrest

theorem batches_run {p : Placing heap} (h : p.InStep) (hne : p.batches ≠ [])
    (gs : List ClassGroup) : (p.run gs).batches = gs.foldl Batch.addToLeast p.batches := by
  obtain ⟨last, hlast, _, hbatches⟩ := foldlM_inStep h hne gs
  rw [run_eq_of_foldlM hlast, hbatches]

end Placing

namespace Assignment

/-- Placing by the queue is the run on the queue as a heap. -/
theorem place_eq_run (gs : List ClassGroup) (q : {q : LoadQueue // q.Ordered}) (bs : List Batch) :
    place gs q.1 bs = ((⟨q, bs⟩ : Placing LoadQueue.heap).run gs).batches := by
  induction gs generalizing q bs with
  | nil => rfl
  | cons g gs ih =>
    obtain ⟨⟨_ | ⟨x, xs⟩⟩, hq⟩ := q
    · rfl
    · exact ih ⟨⟨LoadQueue.insert ⟨x.load + g.total, x.position⟩ xs⟩,
        LoadQueue.ordered_insert _ (List.Pairwise.of_cons hq)⟩ _

theorem emptyBatches_ne_nil (count : BatchCount) : emptyBatches count ≠ [] := by
  have hpos := count.pos
  simp only [emptyBatches, ne_eq, List.map_eq_nil_iff, List.range_eq_nil]
  omega

/-- Groups added one after the other, each to the first batch whose total is smallest. -/
def linearScan (count : BatchCount) (gs : List ClassGroup) : List Batch :=
  gs.foldl Batch.addToLeast (emptyBatches count)

@[simp] theorem length_linearScan (count : BatchCount) (gs : List ClassGroup) :
    (linearScan count gs).length = count.value := by
  induction gs using List.reverseRecOn with
  | nil => simp [linearScan, emptyBatches]
  | append_singleton gs g ih =>
    rw [linearScan, List.foldl_append]
    exact (List.length_modify ..).trans ih

theorem linearScan_concat (count : BatchCount) (gs : List ClassGroup) (g : ClassGroup) :
    ∃ before b after, linearScan count gs = before ++ b :: after ∧
      Batch.IsLeast before b after ∧
        linearScan count (gs ++ [g]) = before ++ b.add g :: after := by
  have hne : linearScan count gs ≠ [] := by
    have hpos := count.pos
    rw [← List.length_pos_iff, length_linearScan]
    exact hpos
  obtain ⟨before, b, after, hsplit, hleast⟩ := Batch.exists_isLeast hne
  refine ⟨before, b, after, hsplit, hleast, ?_⟩
  rw [← Batch.addToLeast_append hleast g, ← hsplit, linearScan, List.foldl_append]
  rfl

end Assignment

open Assignment

theorem assign_eq_linearScan (count : BatchCount) (groups : List ClassGroup) :
    assign count groups = linearScan count (ClassGroup.sortForAssignment groups) := by
  have hplace := place_eq_run (ClassGroup.sortForAssignment groups)
    ⟨LoadQueue.idle count.value, LoadQueue.ordered_idle count.value⟩ (emptyBatches count)
  rw [assign, hplace]
  apply Placing.batches_run _ (emptyBatches_ne_nil count)
  exact congrArg _ (Placing.entries_emptyBatches count).symm

/-- Assignment is the linear scan over the groups in a stable sort, and so is assignment by any
heap. However many groups have been placed, each found a front, and the heap then holds one entry
for each batch, with the total of that batch. -/
theorem heap_assignment_eq_linear_scan (count : BatchCount) (groups : List ClassGroup) :
    ClassGroup.StablySorted groups (ClassGroup.sortForAssignment groups) ∧
      assign count groups = linearScan count (ClassGroup.sortForAssignment groups) ∧
      ∀ heap : Heap BatchLoad BatchLoad.After,
        ((Placing.start heap count).run (ClassGroup.sortForAssignment groups)).batches =
            assign count groups ∧
          ∀ placed : List ClassGroup, ∃ p,
            placed.foldlM Placing.step? (Placing.start heap count) = some p ∧ p.InStep ∧
              p.batches = linearScan count placed := by
  have hscan := assign_eq_linearScan count groups
  refine ⟨ClassGroup.stablySorted_sortForAssignment groups, hscan, ?_⟩
  intro heap
  have hne := emptyBatches_ne_nil count
  have hstart := Placing.start_inStep heap count
  refine ⟨?_, Placing.foldlM_inStep hstart hne⟩
  rw [hscan]
  exact Placing.batches_run hstart hne _

/-- On the queue as a heap: a full batch, two groups that tie, and one without time. -/
theorem heap_assignment_of_ties :
    let two : BatchCount := ⟨2, by decide, by decide⟩
    let groups : List ClassGroup :=
      [⟨"A", [⟨"A", "a", .longest, .successful⟩]⟩, ⟨"B", [⟨"B", "b", .ofNanos 7, .failed⟩]⟩,
        ⟨"B", [⟨"B", "c", .ofNanos 7, .skipped⟩]⟩, ⟨"C", []⟩]
    ((Placing.start LoadQueue.heap two).run groups).batches =
      [⟨1, [⟨"A", "a", .longest, .successful⟩], .longest⟩,
        ⟨2, [⟨"B", "b", .ofNanos 7, .failed⟩, ⟨"B", "c", .ofNanos 7, .skipped⟩], .ofNanos 14⟩] := by
  intro two groups
  have hsorted : ClassGroup.sortForAssignment groups = groups :=
    List.mergeSort_of_pairwise (by decide)
  obtain ⟨_, hscan, hheap⟩ := heap_assignment_eq_linear_scan two groups
  have hbatches := (hheap LoadQueue.heap).1
  rw [hscan, hsorted] at hbatches
  rw [hbatches]
  decide

end SuiteSplit

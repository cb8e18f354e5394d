import SuiteSplit.Proofs.LinearScan

/-!
Which group an assignment places on which batch.

A run is described by its placements: each group in the order of placing, with the position of the batch
that it went to. The batches of an assignment are those of its run, every group is placed in assignment
order, and the run is greedy: a group goes to the first batch whose load is smallest at that time.
-/

namespace SuiteSplit

namespace Assignment

/-- A group and the position of the batch that it went to. -/
structure Placed where
  group : ClassGroup
  position : Nat
deriving DecidableEq, Repr

/-- What `place` does with its groups, one after the other. -/
def placements : List ClassGroup → LoadQueue → List Placed
  | [], _ => []
  | g :: gs, queue =>
    match queue.raiseFront? g.total with
    | none => []
    | some (position, queue) => ⟨g, position⟩ :: placements gs queue

/-- The batches with the groups added to them where they were placed. -/
def follow (bs : List Batch) (run : List Placed) : List Batch :=
  run.foldl (fun bs p => bs.modify p.position (·.add p.group)) bs

/-- The groups that went to the batch at a position, the first one first. -/
def groupsAt (run : List Placed) (i : Nat) : List ClassGroup :=
  (run.filter (·.position = i)).map (·.group)

/-- The time of all groups that went to the batch at a position. -/
def loadAt (run : List Placed) (i : Nat) : Duration :=
  Duration.sum ((groupsAt run i).map (·.total))

section

variable {run : List Placed} {p : Placed} {i : Nat}

theorem groupsAt_concat :
    groupsAt (run ++ [p]) i = groupsAt run i ++ if p.position = i then [p.group] else [] := by
  rw [groupsAt, List.filter_append, List.map_append]
  by_cases hi : p.position = i <;> simp [hi, groupsAt]

theorem loadAt_concat :
    loadAt (run ++ [p]) i =
      if p.position = i then loadAt run i + p.group.total else loadAt run i := by
  rw [loadAt, groupsAt_concat]
  split
  · rw [List.map_append, Duration.sum_append, List.map_singleton, Duration.sum_cons,
      Duration.sum_nil, Duration.add_zero]
    rfl
  · rw [List.append_nil]
    rfl

end

/-! ## Runs on the queue -/

theorem place_eq_follow (gs : List ClassGroup) (queue : LoadQueue) (bs : List Batch) :
    place gs queue bs = follow bs (placements gs queue) := by
  induction gs generalizing queue bs with
  | nil => rfl
  | cons g gs ih =>
    rw [place, placements]
    cases queue.raiseFront? g.total with
    | none => rfl
    | some next => exact ih _ _

/-- A batch gets the groups that were placed on it, in their order. -/
theorem getElem?_follow (run : List Placed) (bs : List Batch) (i : Nat) :
    (follow bs run)[i]? = bs[i]?.map (·.addAll (groupsAt run i)) := by
  induction run generalizing bs with
  | nil => simp [follow, groupsAt]
  | cons p run ih =>
    have htail : follow bs (p :: run) = follow (bs.modify p.position (·.add p.group)) run := rfl
    rw [htail, ih, List.getElem?_modify]
    by_cases hi : p.position = i
    · simp [hi, groupsAt, Batch.addAll_cons, Function.comp_def]
    · simp [hi, groupsAt]

@[simp] theorem length_follow (run : List Placed) (bs : List Batch) :
    (follow bs run).length = bs.length := by
  induction run generalizing bs with
  | nil => rfl
  | cons p run ih => exact (ih _).trans (List.length_modify ..)

@[simp] theorem length_emptyBatches (count : BatchCount) :
    (emptyBatches count).length = count.value := by
  simp [emptyBatches]

theorem getElem?_follow_emptyBatches (count : BatchCount) (run : List Placed) {i : Nat}
    (hi : i < count.value) :
    (follow (emptyBatches count) run)[i]? = some ((Batch.empty (i + 1)).addAll (groupsAt run i)) := by
  rw [getElem?_follow]
  simp [emptyBatches, hi]

@[simp] theorem total_addAll_groupsAt (number : Nat) (run : List Placed) (i : Nat) :
    ((Batch.empty number).addAll (groupsAt run i)).total = loadAt run i := by
  rw [Batch.total_addAll]
  exact Duration.zero_add _

theorem total_follow_emptyBatches {count : BatchCount} {run : List Placed} {i : Nat} {b : Batch}
    (hb : (follow (emptyBatches count) run)[i]? = some b) : b.total = loadAt run i := by
  have hi : i < count.value := by
    obtain ⟨hi, -⟩ := List.getElem?_eq_some_iff.mp hb
    simpa using hi
  rw [getElem?_follow_emptyBatches count run hi] at hb
  rw [← Option.some.inj hb, total_addAll_groupsAt]

/-- A run on `n` batches in which each group goes to the first batch whose load is smallest. -/
inductive Greedy (n : Nat) : List Placed → Prop
  | nil : Greedy n []
  | concat {run : List Placed} {p : Placed} (before : Greedy n run) (inRange : p.position < n)
    (least : ∀ j < n, loadAt run p.position ≤ loadAt run j)
    (first : ∀ j < p.position, loadAt run p.position < loadAt run j) : Greedy n (run ++ [p])

/-- One step: the front of the queue stands for the batch to take next, and queue and batches agree
again. -/
theorem exists_placement {count : BatchCount} {run : List Placed} {q : {q : LoadQueue // q.Ordered}}
    (h : (⟨q, follow (emptyBatches count) run⟩ : Placing LoadQueue.heap).InStep)
    (hrun : Greedy count.value run) (g : ClassGroup) (gs : List ClassGroup) :
    ∃ (p : Placed) (next : {q : LoadQueue // q.Ordered}), p.group = g ∧
      placements (g :: gs) q.1 = p :: placements gs next.1 ∧ Greedy count.value (run ++ [p]) ∧
      (⟨next, follow (emptyBatches count) (run ++ [p])⟩ : Placing LoadQueue.heap).InStep := by
  have hlength : (follow (emptyBatches count) run).length = count.value := by simp
  have hne : follow (emptyBatches count) run ≠ [] := by
    rw [← List.length_pos_iff, hlength]
    exact count.pos
  obtain ⟨before, b, after, put, hsplit, hleast, hfront⟩ := Placing.exists_front h hne
  obtain ⟨after', hstep, hinStep, -⟩ := Placing.step_inStep h hne g
  rw [Placing.step?, hfront] at hstep
  cases hstep
  -- what the batches say of the least loaded one is said of the loads of the run
  simp only at hsplit
  rw [hsplit] at hlength
  have hload {i : Nat} {c : Batch} (hc : (before ++ b :: after)[i]? = some c) :
      c.total = loadAt run i := total_follow_emptyBatches (hsplit ▸ hc)
  have hb : b.total = loadAt run before.length := hload (by simp)
  refine ⟨⟨g, before.length⟩, put ⟨b.total + g.total, before.length⟩, rfl, ?_,
    .concat hrun ?_ ?_ ?_, ?_⟩
  · obtain ⟨⟨_ | ⟨x, xs⟩⟩, hordered⟩ := q
    · cases hfront
    · cases hfront
      rfl
  · rw [← hlength]
    simp
  · intro j hj
    rw [← hlength] at hj
    rw [← hb, ← hload (List.getElem?_eq_getElem hj)]
    exact hleast.le _ (List.getElem_mem hj)
  · intro j hj
    have hc : (before ++ b :: after)[j]? = some before[j] := by
      rw [List.getElem?_append_left hj, List.getElem?_eq_getElem hj]
    rw [← hb, ← hload hc]
    exact hleast.lt_before _ (List.getElem_mem hj)
  · have hfollow : follow (emptyBatches count) (run ++ [⟨g, before.length⟩]) =
        (follow (emptyBatches count) run).modify before.length (·.add g) := by
      rw [follow, List.foldl_append]
      rfl
    rw [hfollow]
    exact hinStep

/-- All steps: every group is placed, and the run is greedy. -/
theorem greedy_placements {count : BatchCount} (gs : List ClassGroup) {run : List Placed}
    {q : {q : LoadQueue // q.Ordered}}
    (h : (⟨q, follow (emptyBatches count) run⟩ : Placing LoadQueue.heap).InStep)
    (hrun : Greedy count.value run) :
    (placements gs q.1).map (·.group) = gs ∧ Greedy count.value (run ++ placements gs q.1) := by
  induction gs generalizing run q with
  | nil => exact ⟨rfl, by rwa [placements, List.append_nil]⟩
  | cons g gs ih =>
    obtain ⟨p, next, hgroup, hplacements, hgreedy, hinStep⟩ := exists_placement h hrun g gs
    obtain ⟨hgroups, hall⟩ := ih hinStep hgreedy
    rw [hplacements]
    refine ⟨by rw [List.map_cons, hgroup, hgroups], ?_⟩
    rwa [← List.append_cons] at hall

/-- The placements of an assignment. -/
def runOf (count : BatchCount) (groups : List ClassGroup) : List Placed :=
  placements (ClassGroup.sortForAssignment groups) (.idle count.value)

theorem runOf_greedy (count : BatchCount) (groups : List ClassGroup) :
    (runOf count groups).map (·.group) = ClassGroup.sortForAssignment groups ∧
      Greedy count.value (runOf count groups) := by
  have hstart : (⟨⟨.idle count.value, LoadQueue.ordered_idle count.value⟩,
      follow (emptyBatches count) []⟩ : Placing LoadQueue.heap).InStep :=
    congrArg _ (Placing.entries_emptyBatches count).symm
  exact greedy_placements (ClassGroup.sortForAssignment groups) hstart .nil

/-- Each batch of an assignment holds the groups that were placed on it. -/
theorem assign_eq_map (count : BatchCount) (groups : List ClassGroup) :
    assign count groups = (List.range count.value).map fun i =>
      (Batch.empty (i + 1)).addAll (groupsAt (runOf count groups) i) := by
  have hfollow : assign count groups = follow (emptyBatches count) (runOf count groups) :=
    place_eq_follow ..
  apply List.ext_getElem
  · simp [hfollow]
  · intro i hi hi'
    have hcount : i < count.value := by simpa using hi'
    rw [← Option.some_inj, ← List.getElem?_eq_getElem, hfollow,
      getElem?_follow_emptyBatches count _ hcount]
    simp

end Assignment

end SuiteSplit

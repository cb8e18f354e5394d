import SuiteSplit.Proofs.GreedyRun

/-!
How well longest-first assignment spreads the groups.

Of a greedy run over groups that come with the longest first two things are shown by induction on its
placements. No group could be moved from its batch to another one and end earlier there than its batch
does. And the groups that take time are spread over as many batches as there can be: these are the first
ones, and each of them gets its first group before any batch gets a second one that takes time.
-/

namespace SuiteSplit

namespace Assignment

/-- How many of the placed groups take time. -/
def timedIn (run : List Placed) : Nat := run.countP (·.group.total ≠ .zero)

section

variable {n : Nat} {run : List Placed} {p : Placed} {i j : Nat}

theorem loadAt_le_concat : loadAt run i ≤ loadAt (run ++ [p]) i := by
  have hlongest := (loadAt run i).nanos_le_longest
  rw [loadAt_concat, Duration.le_iff_nanos]
  split
  · rw [Duration.nanos_add]
    omega
  · exact Nat.le_refl _

theorem mem_of_mem_groupsAt {g : ClassGroup} (hg : g ∈ groupsAt run i) : g ∈ run.map (·.group) := by
  obtain ⟨q, hq, rfl⟩ := List.mem_map.mp hg
  exact List.mem_map_of_mem (List.mem_filter.mp hq).1

theorem timedIn_concat :
    timedIn (run ++ [p]) = timedIn run + if p.group.total = .zero then 0 else 1 := by
  rw [timedIn, List.countP_append, List.countP_singleton]
  by_cases hp : p.group.total = .zero <;> simp [hp, timedIn]

/-- The longest group was placed first. -/
def Descending (run : List Placed) : Prop :=
  (run.map (·.group)).Pairwise fun g h => h.total ≤ g.total

theorem descending_concat : Descending (run ++ [p]) ↔
    Descending run ∧ ∀ g ∈ run.map (·.group), p.group.total ≤ g.total := by
  simp [Descending, List.pairwise_append]

/-- On any other batch a group would end no earlier than the batch does that holds it. What was last
placed on that batch was placed when no load was smaller, and it is the shortest group there. -/
theorem Greedy.loadAt_le (h : Greedy n run) (hdesc : Descending run) (hj : j < n) (hij : i ≠ j)
    {g : ClassGroup} (hg : g ∈ groupsAt run i) : loadAt run i ≤ loadAt run j + g.total := by
  induction h with
  | nil => cases hg
  | @concat run p _ _ hleast _ ih =>
    obtain ⟨hdesc, hshortest⟩ := descending_concat.mp hdesc
    by_cases hi : p.position = i
    · have hle : p.group.total ≤ g.total := by
        rw [groupsAt_concat, if_pos hi, List.mem_append, List.mem_singleton] at hg
        rcases hg with hg | rfl
        · exact hshortest g (mem_of_mem_groupsAt hg)
        · exact Nat.le_refl _
      have hload := hleast j hj
      rw [loadAt_concat, loadAt_concat, if_pos hi, if_neg (fun h => hij (hi.symm.trans h)), ← hi]
      simp only [Duration.le_iff_nanos, Duration.nanos_add] at *
      omega
    · have hg' : g ∈ groupsAt run i := by
        rwa [groupsAt_concat, if_neg hi, List.append_nil] at hg
      have hload := ih hdesc hg'
      have hgrown : loadAt run j ≤ loadAt (run ++ [p]) j := loadAt_le_concat
      rw [loadAt_concat, if_neg hi]
      simp only [Duration.le_iff_nanos, Duration.nanos_add] at *
      omega

/-- Where a group that takes time comes next, all groups placed so far take time. -/
theorem timedIn_eq_length (h : Descending (run ++ [p])) (hp : p.group.total ≠ .zero) :
    timedIn run = run.length := by
  rw [timedIn, List.countP_eq_length]
  intro q hq
  have hle := (descending_concat.mp h).2 q.group (List.mem_map_of_mem hq)
  simp only [ne_eq, Duration.ext_iff, Duration.nanos_zero, Duration.le_iff_nanos] at *
  simp only [decide_eq_true_eq]
  omega

/-- A batch without load holds no group while only groups that take time were placed. -/
theorem groupsAt_eq_nil (htimed : timedIn run = run.length) (hidle : loadAt run i = .zero) :
    groupsAt run i = [] := by
  rw [List.eq_nil_iff_forall_not_mem]
  intro g hg
  have hnone := Duration.sum_eq_zero_iff.mp hidle g.total (List.mem_map_of_mem hg)
  obtain ⟨q, hq, rfl⟩ := List.mem_map.mp (mem_of_mem_groupsAt hg)
  rw [timedIn, List.countP_eq_length] at htimed
  exact of_decide_eq_true (htimed q hq) hnone

theorem head?_groupsAt_concat (h : loadAt run i ≠ .zero) :
    (groupsAt (run ++ [p]) i).head? = (groupsAt run i).head? := by
  have hne : groupsAt run i ≠ [] := by
    intro hnil
    rw [loadAt, hnil] at h
    exact h rfl
  rw [groupsAt_concat, List.head?_append_of_ne_nil _ hne]

/-- The groups that take time are spread over the first batches, in the order of placing, and no time
is spent on the batches behind these. -/
structure Spread (n : Nat) (run : List Placed) : Prop where
  loaded : ∀ i < n, i < timedIn run → loadAt run i ≠ .zero
  first : ∀ i < n, i < timedIn run → (groupsAt run i).head? = run[i]?.map (·.group)
  idle : ∀ i < n, timedIn run ≤ i → loadAt run i = .zero

/-- A group that takes time goes to the first batch without load, as long as there is one. -/
theorem Spread.position_eq (h : Spread n run) (hinRange : p.position < n)
    (hleast : ∀ j < n, loadAt run p.position ≤ loadAt run j)
    (hfirst : ∀ j < p.position, loadAt run p.position < loadAt run j) (hroom : timedIn run < n) :
    p.position = timedIn run := by
  have hidle := h.idle _ hroom (Nat.le_refl _)
  have hzero : loadAt run p.position = .zero := by
    have hle := hleast _ hroom
    rw [hidle, Duration.le_iff_nanos] at hle
    exact Duration.ext (Nat.le_zero.mp hle)
  rcases Nat.lt_trichotomy p.position (timedIn run) with hlt | heq | hgt
  · exact absurd hzero (h.loaded _ hinRange hlt)
  · exact heq
  · have hlt := hfirst _ hgt
    rw [hidle, Duration.lt_iff_nanos] at hlt
    exact absurd hlt (Nat.not_lt_zero _)

/-- A batch that has a load keeps it and its first group. -/
theorem Spread.kept (h : Spread n run) (hi : i < n) (htimed : i < timedIn run) :
    loadAt (run ++ [p]) i ≠ .zero ∧
      (groupsAt (run ++ [p]) i).head? = (run ++ [p])[i]?.map (·.group) := by
  have hlength : timedIn run ≤ run.length := List.countP_le_length
  have hload := h.loaded i hi htimed
  rw [head?_groupsAt_concat hload, h.first i hi htimed, List.getElem?_append_left (by omega)]
  refine ⟨?_, rfl⟩
  have hgrown : loadAt run i ≤ loadAt (run ++ [p]) i := loadAt_le_concat
  simp only [ne_eq, Duration.ext_iff, Duration.nanos_zero, Duration.le_iff_nanos] at *
  omega

/-- A group without time changes nothing, wherever it goes. -/
theorem Spread.concat_of_zero (h : Spread n run) (hp : p.group.total = .zero) :
    Spread n (run ++ [p]) := by
  have htimed : timedIn (run ++ [p]) = timedIn run := by rw [timedIn_concat, if_pos hp, Nat.add_zero]
  constructor
  · intro i hi hlt
    exact (h.kept hi (htimed ▸ hlt)).1
  · intro i hi hlt
    exact (h.kept hi (htimed ▸ hlt)).2
  · intro i hi hle
    rw [loadAt_concat, hp, Duration.add_zero, ite_self]
    exact h.idle i hi (htimed ▸ hle)

/-- A group that takes time is the first one on the next batch, as long as there is one. -/
theorem Spread.concat_of_ne_zero (h : Spread n run) (hall : timedIn run = run.length)
    (hp : p.group.total ≠ .zero) (hposition : timedIn run < n → p.position = timedIn run) :
    Spread n (run ++ [p]) := by
  have htimed : timedIn (run ++ [p]) = timedIn run + 1 := by rw [timedIn_concat, if_neg hp]
  have hnext (hi : timedIn run < n) : loadAt (run ++ [p]) (timedIn run) = p.group.total ∧
      groupsAt (run ++ [p]) (timedIn run) = [p.group] := by
    have hidle := h.idle _ hi (Nat.le_refl _)
    rw [loadAt_concat, groupsAt_concat, if_pos (hposition hi), if_pos (hposition hi), hidle,
      groupsAt_eq_nil hall hidle, Duration.zero_add]
    exact ⟨rfl, rfl⟩
  constructor
  · intro i hi hlt
    rcases Nat.lt_or_eq_of_le (Nat.le_of_lt_succ (htimed ▸ hlt)) with hlt | rfl
    · exact (h.kept hi hlt).1
    · rw [(hnext hi).1]
      exact hp
  · intro i hi hlt
    rcases Nat.lt_or_eq_of_le (Nat.le_of_lt_succ (htimed ▸ hlt)) with hlt | rfl
    · exact (h.kept hi hlt).2
    · rw [(hnext hi).2, hall]
      simp
  · intro i hi hle
    rw [htimed] at hle
    have hother : p.position ≠ i := by
      have hlast := hposition (by omega)
      omega
    rw [loadAt_concat, if_neg hother]
    exact h.idle i hi (by omega)

/-- One step, where all groups placed so far take time if the next one does. -/
theorem Spread.concat (h : Spread n run) (hdesc : Descending (run ++ [p])) (hinRange : p.position < n)
    (hleast : ∀ j < n, loadAt run p.position ≤ loadAt run j)
    (hfirst : ∀ j < p.position, loadAt run p.position < loadAt run j) : Spread n (run ++ [p]) := by
  by_cases hp : p.group.total = .zero
  · exact h.concat_of_zero hp
  · have hposition := h.position_eq hinRange hleast hfirst
    exact h.concat_of_ne_zero (timedIn_eq_length hdesc hp) hp hposition

/-- All steps: a greedy run over groups that come with the longest first is spread. -/
theorem Greedy.spread (h : Greedy n run) (hdesc : Descending run) : Spread n run := by
  induction h with
  | nil => exact ⟨fun _ _ => nofun, fun _ _ => nofun, fun _ _ _ => rfl⟩
  | concat _ hinRange hleast hfirst ih =>
    exact (ih (descending_concat.mp hdesc).1).concat hdesc hinRange hleast hfirst

/-- The batches with a load are the first ones. -/
theorem Spread.filter_range (h : Spread n run) :
    (List.range n).filter (fun i => loadAt run i ≠ .zero) = List.range (min n (timedIn run)) := by
  obtain ⟨m, hm⟩ := Nat.exists_eq_add_of_le (Nat.min_le_left n (timedIn run))
  have hloaded : ∀ i ∈ List.range (min n (timedIn run)), loadAt run i ≠ .zero := by
    intro i hi
    have hlt := List.mem_range.mp hi
    exact h.loaded i (by omega) (by omega)
  have hidle : ∀ i ∈ (List.range m).map (min n (timedIn run) + ·), ¬ loadAt run i ≠ .zero := by
    intro i hi
    obtain ⟨j, hj, rfl⟩ := List.mem_map.mp hi
    have hlt := List.mem_range.mp hj
    exact not_not.mpr (h.idle _ (by omega) (by omega))
  conv_lhs => rw [hm]
  rw [List.range_add, List.filter_append, List.filter_eq_self.mpr, List.filter_eq_nil_iff.mpr,
    List.append_nil]
  · exact fun i hi => by simpa using hidle i hi
  · exact fun i hi => decide_eq_true (hloaded i hi)

/-- Each of these has as its first group the one whose place in the run is its own place. -/
theorem Spread.map_head? (h : Spread n run) :
    (List.range (min n (timedIn run))).map (fun i => (groupsAt run i).head?) =
      ((run.map (·.group)).take (min n (timedIn run))).map some := by
  have hlength : timedIn run ≤ run.length := List.countP_le_length
  apply List.ext_getElem
  · simp only [List.length_map, List.length_range, List.length_take]
    omega
  · intro i hi _
    rw [List.length_map, List.length_range] at hi
    have hfirst := h.first i (by omega) (by omega)
    rw [List.getElem?_eq_getElem (by omega)] at hfirst
    simpa using hfirst

end

end Assignment

open Assignment

theorem descending_runOf (count : BatchCount) (groups : List ClassGroup) :
    Descending (runOf count groups) := by
  rw [Descending, (runOf_greedy count groups).1]
  refine (ClassGroup.stablySorted_sortForAssignment groups).ordered.imp ?_
  intro g h hgh
  simp only [Duration.lt_iff_nanos, Duration.ext_iff, Duration.le_iff_nanos] at *
  omega

theorem timedIn_runOf (count : BatchCount) (groups : List ClassGroup) :
    timedIn (runOf count groups) = groups.countP (·.total ≠ .zero) := by
  have hsorted := (ClassGroup.sortForAssignment_perm groups).countP_eq (·.total ≠ .zero)
  rw [← hsorted, ← (runOf_greedy count groups).1, List.countP_map]
  rfl

theorem getElem?_assign_eq_some_iff {count : BatchCount} {groups : List ClassGroup} {i : Nat}
    {b : Batch} : (assign count groups)[i]? = some b ↔
      i < count.value ∧ b = (Batch.empty (i + 1)).addAll (groupsAt (runOf count groups) i) := by
  rw [assign_eq_map, List.getElem?_map]
  by_cases hi : i < count.value
  · simp [hi, eq_comm]
  · simp [hi]

/-- No single move is an improvement: a batch is made up of the groups that were placed on it, and none
of these would end earlier on another batch than its own batch does. -/
theorem no_move_improves (count : BatchCount) (groups : List ClassGroup) {i j : Nat} (hij : i ≠ j)
    {b c : Batch} (hb : (assign count groups)[i]? = some b)
    (hc : (assign count groups)[j]? = some c) :
    b = (Batch.empty (i + 1)).addAll (groupsAt (runOf count groups) i) ∧
      ∀ g ∈ groupsAt (runOf count groups) i, b.total ≤ c.total + g.total := by
  obtain ⟨-, rfl⟩ := getElem?_assign_eq_some_iff.mp hb
  obtain ⟨hj, rfl⟩ := getElem?_assign_eq_some_iff.mp hc
  refine ⟨rfl, ?_⟩
  intro g hg
  rw [total_addAll_groupsAt, total_addAll_groupsAt]
  exact (runOf_greedy count groups).2.loadAt_le (descending_runOf count groups) hj hij hg

/-- A full batch, two that tie, and a group without time on one of these. -/
theorem no_move_improves_of_tie :
    let three : BatchCount := ⟨3, by decide, by decide⟩
    let group (key : String) (time : Duration) : ClassGroup := ⟨key, [⟨key, "t", time, .successful⟩]⟩
    let groups := [group "A" .longest, group "B" (.ofNanos 7), group "C" (.ofNanos 6),
      group "D" (.ofNanos 5), group "E" (.ofNanos 4), group "F" .zero]
    ∃ b c, (assign three groups)[1]? = some b ∧ (assign three groups)[2]? = some c ∧
      groupsAt (runOf three groups) 1 = [group "B" (.ofNanos 7), group "E" (.ofNanos 4), group "F" .zero] ∧
      b.total = .ofNanos 11 ∧ c.total = .ofNanos 11 ∧
      ∀ g ∈ groupsAt (runOf three groups) 1, b.total ≤ c.total + g.total := by
  intro three group groups
  have hsorted : ClassGroup.sortForAssignment groups = groups :=
    List.mergeSort_of_pairwise (by decide)
  have hassign : ∃ a b c, assign three groups = [a, b, c] ∧ b.total = .ofNanos 11 ∧
      c.total = .ofNanos 11 := by
    rw [assign, hsorted]
    exact ⟨_, _, _, rfl, rfl, rfl⟩
  obtain ⟨a, b, c, hbatches, hb, hc⟩ := hassign
  have hfirst : (assign three groups)[1]? = some b := by rw [hbatches]; rfl
  have hsecond : (assign three groups)[2]? = some c := by rw [hbatches]; rfl
  refine ⟨b, c, hfirst, hsecond, ?_, hb, hc, (no_move_improves three groups (by decide) hfirst hsecond).2⟩
  rw [runOf, hsorted]
  rfl

/-- No batch is left without work while there is more than one group to take: of `n` batches and `p`
groups that take time, the first `min n p` batches have a load and no others, and these start with the
first `min n p` groups in assignment order. -/
theorem loaded_batches (count : BatchCount) (groups : List ClassGroup) :
    let loaded := min count.value (groups.countP (·.total ≠ .zero))
    assign count groups = (List.range count.value).map (fun i =>
        (Batch.empty (i + 1)).addAll (groupsAt (runOf count groups) i)) ∧
      ((assign count groups).filter (·.total ≠ .zero)).map (·.number) = List.range' 1 loaded ∧
      (List.range loaded).map (fun i => (groupsAt (runOf count groups) i).head?) =
        ((ClassGroup.sortForAssignment groups).take loaded).map some := by
  intro loaded
  obtain ⟨hgroups, hgreedy⟩ := runOf_greedy count groups
  have hspread := hgreedy.spread (descending_runOf count groups)
  have hfilter := hspread.filter_range
  have hheads := hspread.map_head?
  rw [timedIn_runOf] at hfilter hheads
  rw [hgroups] at hheads
  refine ⟨assign_eq_map count groups, ?_, hheads⟩
  rw [assign_eq_map, List.filter_map, List.map_map, List.range'_eq_map_range]
  simp only [Function.comp_def, total_addAll_groupsAt, hfilter]
  refine List.map_congr_left fun i _ => ?_
  rw [Batch.number_addAll]
  exact Nat.add_comm i 1

end SuiteSplit

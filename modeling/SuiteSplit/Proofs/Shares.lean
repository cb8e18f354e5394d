import SuiteSplit.Proofs.LinearScan

/-!
The scan deals the groups out into shares, one for each batch, and every batch is the batch with the
groups of its share added in the order in which they were dealt. What a batch holds and how long it
takes is read off its share.
-/

namespace SuiteSplit

namespace Assignment

/-- The batches with given shares of the groups, numbered from one. -/
def batchesOf (shares : List (List ClassGroup)) : List Batch :=
  shares.mapIdx fun i gs => (Batch.empty (i + 1)).addAll gs

@[simp] theorem length_batchesOf (shares : List (List ClassGroup)) :
    (batchesOf shares).length = shares.length := List.length_mapIdx

theorem batchesOf_modify (shares : List (List ClassGroup)) (i : Nat) (g : ClassGroup) :
    (batchesOf shares).modify i (·.add g) = batchesOf (shares.modify i (· ++ [g])) := by
  apply List.ext_getElem
  · simp
  · intro j hj hj'
    by_cases hij : i = j
    · subst hij
      simp [batchesOf, Batch.addAll_concat]
    · simp [batchesOf, hij]

theorem batchesOf_replicate (count : BatchCount) :
    batchesOf (List.replicate count.value []) = emptyBatches count := by
  apply List.ext_getElem
  · simp [emptyBatches]
  · intro i _ _
    simp [batchesOf, emptyBatches]

private theorem flatten_modify_perm (shares : List (List ClassGroup)) {i : Nat}
    (hi : i < shares.length) (g : ClassGroup) :
    (shares.modify i (· ++ [g])).flatten.Perm (shares.flatten ++ [g]) := by
  obtain ⟨before, share, after, hsplit, _, hmodify⟩ := List.exists_of_modify (· ++ [g]) hi
  rw [hmodify, hsplit]
  simp only [List.flatten_append, List.flatten_cons, List.append_assoc]
  exact (List.perm_append_comm.append_left _).append_left _

/-- The scan deals out the groups: each goes into one share. -/
theorem foldl_addToLeast_batchesOf (gs : List ClassGroup) {shares : List (List ClassGroup)}
    (hne : shares ≠ []) :
    ∃ dealt, gs.foldl Batch.addToLeast (batchesOf shares) = batchesOf dealt ∧
      dealt.length = shares.length ∧ dealt.flatten.Perm (shares.flatten ++ gs) := by
  induction gs generalizing shares with
  | nil => exact ⟨shares, rfl, rfl, by simp⟩
  | cons g gs ih =>
    have hposition : Batch.leastLoaded (batchesOf shares) < shares.length := by
      rw [← length_batchesOf shares]
      apply Batch.leastLoaded_lt_length
      simpa [batchesOf] using hne
    have hfirst := flatten_modify_perm shares hposition g
    have hne' : shares.modify (Batch.leastLoaded (batchesOf shares)) (· ++ [g]) ≠ [] := by
      simpa using hne
    obtain ⟨dealt, hdealt, hlength, hperm⟩ := ih hne'
    refine ⟨dealt, ?_, by simpa using hlength, ?_⟩
    · rw [List.foldl_cons, Batch.addToLeast, batchesOf_modify, hdealt]
    · have hall := hperm.trans (hfirst.append_right gs)
      rwa [List.append_assoc, List.singleton_append] at hall

/-- The scan gives each batch a share of the groups, and the shares together are the groups. -/
theorem exists_shares (count : BatchCount) (gs : List ClassGroup) :
    ∃ shares, linearScan count gs = batchesOf shares ∧ shares.length = count.value ∧
      shares.flatten.Perm gs := by
  have hne : List.replicate count.value ([] : List ClassGroup) ≠ [] := by
    have hpos := count.pos
    simp only [ne_eq, List.replicate_eq_nil_iff]
    omega
  obtain ⟨shares, hshares, hlength, hperm⟩ := foldl_addToLeast_batchesOf gs hne
  refine ⟨shares, ?_, by simpa using hlength, by simpa using hperm⟩
  rw [linearScan, ← batchesOf_replicate, hshares]

theorem mem_batchesOf {shares : List (List ClassGroup)} {b : Batch} :
    b ∈ batchesOf shares ↔
      ∃ (i : Nat) (hi : i < shares.length), b = (Batch.empty (i + 1)).addAll shares[i] := by
  simp [batchesOf, List.mem_mapIdx, eq_comm]

theorem numbers_batchesOf (shares : List (List ClassGroup)) :
    (batchesOf shares).map (·.number) = List.range' 1 shares.length := by
  apply List.ext_getElem
  · simp
  · intro i _ _
    simp [batchesOf, Batch.empty, Nat.add_comm]

theorem flatMap_tests_batchesOf (shares : List (List ClassGroup)) :
    (batchesOf shares).flatMap (·.tests) = shares.flatten.flatMap (·.tests) := by
  have htests : (batchesOf shares).map (·.tests) = shares.map (·.flatMap (·.tests)) := by
    apply List.ext_getElem
    · simp
    · intro i _ _
      simp [batchesOf, Batch.empty]
  rw [List.flatMap_def, htests]
  simp [List.flatMap_def, List.flatten_flatten, List.map_flatten, Function.comp_def]

end Assignment

end SuiteSplit

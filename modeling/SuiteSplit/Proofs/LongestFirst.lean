import SuiteSplit.Proofs.Shares

/-!
How far longest-first assignment is from the best one. Against any placement of the same groups, the
makespan is at most `4/3 - 1/(3 n)` times as long on `n` batches.

The bound holds for every single step. Let `q` be the total of the group to place and `M` the
makespan of the other placement. If `q` is at most a third of `M`, the average load is low enough.
Otherwise the groups are weighed: those shorter than `q` by nothing, those that do not fit beside `q`
within `M` by two, all others by one. No batch of the other placement weighs more than two. If `q` did
not fit on the least loaded batch, every batch would already weigh two before `q` itself is counted.
-/

namespace SuiteSplit

/-- A placement of groups on `n` batches. It gives a batch to each position of the list. -/
abbrev Placement (groups : List ClassGroup) (n : Nat) := Fin groups.length → Fin n

namespace Placement

/-- The weight of a time `p` next to a time `q`, within `M`. -/
def weight (q M p : Nat) : Nat := if p < q then 0 else if M < p + q then 2 else 1

/-- What times weigh together: they are too much, or nothing, or one of them fits beside `q`, or they
leave no room for `q`. -/
private theorem sum_weight_cases {q M : Nat} (hq : M < 3 * q) (ps : List Nat) :
    M < ps.sum ∨ (ps.map (weight q M)).sum = 0 ∨
      ((ps.map (weight q M)).sum = 1 ∧ q ≤ ps.sum) ∨
        ((ps.map (weight q M)).sum = 2 ∧ M < ps.sum + q) := by
  induction ps with
  | nil => exact Or.inr (Or.inl rfl)
  | cons p ps ih =>
    rw [List.map_cons, List.sum_cons, List.sum_cons, weight]
    split
    · omega
    · split <;> omega

theorem sum_weight_le_two {q M : Nat} (hq : M < 3 * q) (ps : List Nat) (hps : ps.sum ≤ M) :
    (ps.map (weight q M)).sum ≤ 2 := by
  have hcases := sum_weight_cases hq ps
  omega

theorem one_le_weight {q M p : Nat} (hp : q ≤ p) : 1 ≤ weight q M p := by
  rw [weight]
  split
  · omega
  · split <;> omega

theorem two_le_sum_weight {q M : Nat} (hqM : q ≤ M) (ps : List Nat) (hps : ∀ p ∈ ps, q ≤ p)
    (hfull : M < ps.sum + q) : 2 ≤ (ps.map (weight q M)).sum := by
  match ps with
  | [] =>
    rw [List.sum_nil] at hfull
    omega
  | [p] =>
    have hp := hps p (by simp)
    rw [List.sum_singleton] at hfull
    rw [List.map_singleton, List.sum_singleton, weight, if_neg (by omega), if_pos hfull]
  | p :: p' :: ps =>
    have hp := one_le_weight (M := M) (hps p (by simp))
    have hp' := one_le_weight (M := M) (hps p' (by simp))
    simp only [List.map_cons, List.sum_cons]
    omega

variable {groups : List ClassGroup} {n : Nat}

/-- The load of a batch: the exact sum of its groups' totals, cut at the longest duration. -/
def load (f : Placement groups n) (b : Fin n) : Duration :=
  .ofNanos (∑ i with f i = b, groups[i].total.nanos)

/-- The nanoseconds of the largest load. -/
def makespan (f : Placement groups n) : Nat := Finset.univ.sup fun b => (f.load b).nanos

theorem makespan_le_longest (f : Placement groups n) : f.makespan ≤ Duration.longest.nanos :=
  Finset.sup_le fun b _ => (f.load b).nanos_le_longest

theorem sum_le_makespan (f : Placement groups n) (hf : f.makespan < Duration.longest.nanos)
    (b : Fin n) : ∑ i with f i = b, groups[i].total.nanos ≤ f.makespan := by
  have hb : (f.load b).nanos ≤ f.makespan :=
    Finset.le_sup (f := fun b => (f.load b).nanos) (Finset.mem_univ b)
  rw [load, Duration.nanos_ofNanos] at hb
  omega

theorem total_le_makespan (f : Placement groups n) (hf : f.makespan < Duration.longest.nanos)
    {g : ClassGroup} (hg : g ∈ groups) : g.total.nanos ≤ f.makespan := by
  obtain ⟨i, hi, rfl⟩ := List.getElem_of_mem hg
  have hmem : ⟨i, hi⟩ ∈ Finset.univ.filter (f · = f ⟨i, hi⟩) := by simp
  have hsingle := Finset.single_le_sum
    (fun (j : Fin groups.length) _ => Nat.zero_le groups[j].total.nanos) hmem
  exact hsingle.trans (f.sum_le_makespan hf _)

/-- If no times within the makespan weigh more than `k`, the groups weigh at most `k` for each
batch. -/
theorem sum_weights_le (f : Placement groups n) (hf : f.makespan < Duration.longest.nanos)
    {w : Nat → Nat} {k : Nat} (hw : ∀ ps : List Nat, ps.sum ≤ f.makespan → (ps.map w).sum ≤ k) :
    (groups.map fun g => w g.total.nanos).sum ≤ n * k := by
  have hbatch (b : Fin n) : ∑ i with f i = b, w groups[i].total.nanos ≤ k := by
    let times := (Finset.univ.filter (f · = b)).toList.map fun i => groups[i].total.nanos
    have htimes : times.sum ≤ f.makespan := by
      rw [Finset.sum_map_toList]
      exact f.sum_le_makespan hf b
    have hweights := hw times htimes
    rwa [List.map_map, Finset.sum_map_toList] at hweights
  calc (groups.map fun g => w g.total.nanos).sum
      = ∑ i : Fin groups.length, w groups[i].total.nanos :=
        (Fin.sum_univ_fun_getElem groups fun g => w g.total.nanos).symm
    _ = ∑ b : Fin n, ∑ i with f i = b, w groups[i].total.nanos :=
        (Finset.sum_fiberwise Finset.univ f _).symm
    _ ≤ Finset.univ.card • k := Finset.sum_le_card_nsmul _ _ _ fun b _ => hbatch b
    _ = n * k := by rw [Finset.card_fin, smul_eq_mul]

private theorem length_mul_le_sum (shares : List (List ClassGroup)) (v : ClassGroup → Nat) (k : Nat)
    (hk : ∀ share ∈ shares, k ≤ (share.map v).sum) :
    shares.length * k ≤ (shares.flatten.map v).sum := by
  have hsums := List.card_nsmul_le_sum (shares.map fun share => (share.map v).sum) k
    (by simpa using hk)
  rw [List.length_map, smul_eq_mul] at hsums
  rw [List.map_flatten, List.sum_flatten, List.map_map]
  exact hsums

private theorem add_le_of_third {n M q least : Nat} (hn : n ≠ 0) (hq : 3 * q ≤ M)
    (haverage : n * least + q ≤ n * M) : 3 * n * (least + q) ≤ (4 * n - 1) * M := by
  cases n with
  | zero => exact absurd rfl hn
  | succ m =>
    have hothers : m * (3 * q) ≤ m * M := Nat.mul_le_mul_left m hq
    calc 3 * (m + 1) * (least + q) = 3 * ((m + 1) * least + q) + m * (3 * q) := by ring
      _ ≤ 3 * ((m + 1) * M) + m * M := by omega
      _ = (4 * m + 3) * M := by ring
      _ = (4 * (m + 1) - 1) * M := by rw [show 4 * (m + 1) - 1 = 4 * m + 3 by omega]

/-- The step: where a load is no larger than any share, and no group dealt out so far is shorter than
the next one, the load and the next group together are within the bound. -/
theorem least_add_le (f : Placement groups n) (hf : f.makespan < Duration.longest.nanos)
    (hn : n ≠ 0) {shares : List (List ClassGroup)} {g : ClassGroup} {rest : List ClassGroup}
    (hlength : shares.length = n) (hperm : (shares.flatten ++ g :: rest).Perm groups)
    (hlong : ∀ share ∈ shares, ∀ h ∈ share, g.total.nanos ≤ h.total.nanos) {least : Nat}
    (hleast : ∀ share ∈ shares, least ≤ (share.map (·.total.nanos)).sum) :
    3 * n * (least + g.total.nanos) ≤ (4 * n - 1) * f.makespan := by
  have hg : g.total.nanos ≤ f.makespan := f.total_le_makespan hf (hperm.mem_iff.mp (by simp))
  -- what all groups weigh, split at the next one
  have hsplit (w : Nat → Nat) : (groups.map fun h => w h.total.nanos).sum =
      (shares.flatten.map fun h => w h.total.nanos).sum + w g.total.nanos +
        (rest.map fun h => w h.total.nanos).sum := by
    rw [← (hperm.map _).sum_eq]
    simp [Nat.add_assoc]
  by_cases hthird : f.makespan < 3 * g.total.nanos
  · have hfits : least + g.total.nanos ≤ f.makespan := by
      by_contra hover
      have hshares := length_mul_le_sum shares
        (fun h => weight g.total.nanos f.makespan h.total.nanos) 2 (by
          intro share hshare
          have hfull := hleast share hshare
          have htwo := two_le_sum_weight hg (share.map (·.total.nanos))
            (by simpa using hlong share hshare) (by omega)
          rwa [List.map_map] at htwo)
      have hall := f.sum_weights_le hf fun ps hps => sum_weight_le_two hthird ps hps
      have hown := one_le_weight (M := f.makespan) (Nat.le_refl g.total.nanos)
      rw [hsplit (weight g.total.nanos f.makespan)] at hall
      omega
    calc 3 * n * (least + g.total.nanos) ≤ 3 * n * f.makespan := Nat.mul_le_mul_left _ hfits
      _ ≤ (4 * n - 1) * f.makespan := Nat.mul_le_mul_right _ (by omega)
  · have hshares := length_mul_le_sum shares (·.total.nanos) least hleast
    have hall := f.sum_weights_le hf (w := id) fun ps hps => by rwa [List.map_id]
    rw [hsplit id] at hall
    rw [hlength] at hshares
    simp only [id] at hall
    exact add_le_of_third hn (by omega) (by omega)

end Placement

open Assignment

/-- The bound holds after every group placed, and not just at the end. -/
private theorem totals_le_of_prefix {count : BatchCount} {groups : List ClassGroup}
    (f : Placement groups count.value) (hf : f.makespan < Duration.longest.nanos)
    (placed : List ClassGroup) :
    ∀ rest, ClassGroup.sortForAssignment groups = placed ++ rest →
      ∀ b ∈ linearScan count placed,
        3 * count.value * b.total.nanos ≤ (4 * count.value - 1) * f.makespan := by
  induction placed using List.reverseRecOn with
  | nil =>
    intro _ _ b hb
    obtain ⟨i, _, rfl⟩ := List.mem_map.mp hb
    simp [Batch.empty]
  | append_singleton placed g ih =>
    intro rest hsorted c hc
    rw [List.append_assoc, List.singleton_append] at hsorted
    have hbound := ih (g :: rest) hsorted
    obtain ⟨shares, hshares, hlength, hdealt⟩ := exists_shares count placed
    obtain ⟨before, b, after, hsplit, hleast, hstep⟩ := linearScan_concat count placed g
    rw [hstep] at hc
    rcases List.mem_append.mp hc with hc | hc
    · exact hbound c (hsplit ▸ by simp [hc])
    rcases List.mem_cons.mp hc with rfl | hc
    · have hadd : (b.add g).total.nanos ≤ b.total.nanos + g.total.nanos := by
        rw [Batch.total_add, Duration.nanos_add]
        exact Nat.min_le_left _ _
      have hperm : (shares.flatten ++ g :: rest).Perm groups :=
        (hdealt.append_right _).trans
          (hsorted ▸ ClassGroup.sortForAssignment_perm groups)
      have hlong : ∀ share ∈ shares, ∀ h ∈ share, g.total.nanos ≤ h.total.nanos := by
        intro share hshare h hh
        have hplaced : h ∈ placed := hdealt.mem_iff.mp (List.mem_flatten.mpr ⟨share, hshare, hh⟩)
        have hordered := (ClassGroup.stablySorted_sortForAssignment groups).ordered
        rw [hsorted] at hordered
        have hpair := (List.pairwise_append.mp hordered).2.2 h hplaced g List.mem_cons_self
        simp only [Duration.lt_iff_nanos, Duration.ext_iff] at hpair
        omega
      have hshare : ∀ share ∈ shares, b.total.nanos ≤ (share.map (·.total.nanos)).sum := by
        intro share hshare
        obtain ⟨i, hi, rfl⟩ := List.getElem_of_mem hshare
        have hle := hleast.le _ (hsplit ▸ hshares ▸ mem_batchesOf.mpr ⟨i, hi, rfl⟩)
        rw [Duration.le_iff_nanos, Batch.nanos_total_addAll_empty] at hle
        exact hle.trans (Nat.min_le_left _ _)
      exact (Nat.mul_le_mul_left _ hadd).trans
        (f.least_add_le hf count.pos.ne' hlength hperm hlong hshare)
    · exact hbound c (hsplit ▸ by simp [hc])

/-- The makespan of an assignment against that of any placement of the same groups. Times are cut at
the longest duration on both sides. -/
theorem makespan_assign_le (count : BatchCount) (groups : List ClassGroup)
    (f : Placement groups count.value) :
    3 * count.value * (Batch.makespan (assign count groups)).nanos ≤
      (4 * count.value - 1) * f.makespan := by
  have hpos := count.pos
  rcases Nat.lt_or_eq_of_le f.makespan_le_longest with hf | hlongest
  · have hall := totals_le_of_prefix f hf (ClassGroup.sortForAssignment groups) [] (by simp)
    rw [← assign_eq_linearScan] at hall
    let bound := (4 * count.value - 1) * f.makespan / (3 * count.value)
    have hle : Batch.makespan (assign count groups) ≤ .ofNanos bound := by
      rw [Batch.makespan_le_iff]
      intro b hb
      have hb' : b.total.nanos ≤ bound := by
        rw [Nat.le_div_iff_mul_le (by omega), Nat.mul_comm]
        exact hall b hb
      exact Nat.le_min.mpr ⟨hb', b.total.nanos_le_longest⟩
    exact (Nat.mul_le_mul_left _ (hle.trans (Nat.min_le_left _ _))).trans (Nat.mul_div_le _ _)
  · rw [hlongest]
    exact Nat.mul_le_mul (by omega) (Duration.nanos_le_longest _)

end SuiteSplit

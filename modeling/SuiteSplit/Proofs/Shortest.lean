import Mathlib.Algebra.Order.Field.Power
import SuiteSplit.Number.Shortest
import SuiteSplit.Proofs.Digits
import SuiteSplit.Proofs.Rounding

/-!
The shortest decimal is near the number that it stands for.

A decimal rounds to a number when it is within half a spacing of it. With seventeen digits one of the
two neighbours on the grid of decimals is that near, so the search ends, with a decimal whose relative
error is one rounding at most. Where a grid is coarser than the spacing, and one of its decimals rounds
to the number, the search finds the value of this decimal.
-/

namespace SuiteSplit

namespace Decimal

/-- The value of a decimal. -/
def value (d : Decimal) : ℚ := d.digits * 10 ^ d.exponent

section

variable {d : Decimal}

theorem trimZeros_eq (h : d.digits ≠ 0) : ∃ j : Nat, 10 ^ j ∣ d.digits ∧
    d.trimZeros = ⟨d.digits / 10 ^ j, d.exponent + j⟩ := by
  refine ⟨_, ten_pow_trailing_dvd (Nat.pos_of_ne_zero h), ?_⟩
  rw [trimZeros, if_neg h]

theorem value_trimZeros (d : Decimal) : d.trimZeros.value = d.value := by
  by_cases h : d.digits = 0
  · simp [trimZeros, value, h]
  · obtain ⟨j, ⟨m, hm⟩, htrim⟩ := trimZeros_eq h
    rw [htrim, value, value, hm, Nat.mul_div_cancel_left m (by positivity),
      zpow_add₀ (by norm_num), zpow_natCast]
    push_cast
    ring

theorem digits_trimZeros_le (h : d.digits ≠ 0) : d.trimZeros.digits ≤ d.digits := by
  obtain ⟨j, -, htrim⟩ := trimZeros_eq h
  rw [htrim]
  exact Nat.div_le_self _ _

theorem exponent_le_trimZeros (h : d.digits ≠ 0) : d.exponent ≤ d.trimZeros.exponent := by
  obtain ⟨j, -, htrim⟩ := trimZeros_eq h
  rw [htrim]
  dsimp only
  omega

theorem digits_trimZeros_pos (h : d.digits ≠ 0) : 0 < d.trimZeros.digits := by
  obtain ⟨j, hdvd, htrim⟩ := trimZeros_eq h
  rw [htrim]
  exact Nat.div_pos (Nat.le_of_dvd (Nat.pos_of_ne_zero h) hdvd) (by positivity)

end

end Decimal

namespace Binary64

variable {x : Binary64} {k : Int} {d n : Nat}

/-! ## Magnitude -/

/-- The least magnitude that is searched. -/
def leastValue : ℚ := 1 / 10 ^ 100

theorem cast_ten_pow_pos (k : Nat) : (0 : ℚ) < (10 ^ k : Nat) := by
  push_cast
  positivity

theorem ten_zpow_eq (k : Int) : (10 : ℚ) ^ k = 10 ^ k.toNat / 10 ^ (-k).toNat := by
  rw [← zpow_natCast, ← zpow_natCast, ← zpow_sub₀ (by norm_num)]
  congr 1
  omega

theorem value_lt_succ_whole (x : Binary64) : x.value < (x.steps / stepsPerOne : Nat) + 1 := by
  rw [value, div_lt_iff₀ cast_stepsPerOne_pos]
  have h := Nat.lt_mul_div_succ x.steps stepsPerOne_pos
  rw [Nat.mul_comm] at h
  exact_mod_cast h

theorem whole_le_value (x : Binary64) : ((x.steps / stepsPerOne : Nat) : ℚ) ≤ x.value := by
  rw [value, le_div_iff₀ cast_stepsPerOne_pos]
  exact_mod_cast Nat.div_mul_le_self x.steps stepsPerOne

theorem le_steps_mul_iff (x : Binary64) (j : Nat) :
    stepsPerOne ≤ x.steps * 10 ^ j ↔ (10 : ℚ) ^ (-(j : Int)) ≤ x.value := by
  rw [zpow_neg, zpow_natCast, inv_le_iff_one_le_mul₀ (by positivity), value, div_mul_eq_mul_div,
    one_le_div cast_stepsPerOne_pos]
  norm_cast

/-- The magnitude is that of the value. -/
theorem magnitude_spec (h : leastValue ≤ x.value) :
    (10 : ℚ) ^ x.magnitude ≤ x.value ∧ x.value < 10 ^ (x.magnitude + 1) := by
  rw [magnitude]
  split
  · next hwhole =>
    have hlength := Nat.length_toDigits_pos (b := 10) (n := x.steps / stepsPerOne)
    have hlow := ten_pow_length_toDigits_le hwhole
    have hhigh := lt_ten_pow_length_toDigits (x.steps / stepsPerOne)
    rw [sub_add_cancel, zpow_natCast, ← Nat.cast_pred hlength, zpow_natCast]
    constructor
    · refine le_trans ?_ (whole_le_value x)
      exact_mod_cast hlow
    · refine (value_lt_succ_whole x).trans_le ?_
      exact_mod_cast hhigh
  · next hwhole =>
    have hone : x.value < 1 := by
      have h := value_lt_succ_whole x
      rwa [Nat.eq_zero_of_not_pos hwhole, Nat.cast_zero, zero_add] at h
    split
    · next j hj =>
      obtain ⟨hhit, -, hmiss⟩ := List.find?_range_eq_some.mp hj
      have hlow := (le_steps_mul_iff x j).mp (of_decide_eq_true hhit)
      refine ⟨hlow, ?_⟩
      cases j with
      | zero =>
        rw [Nat.cast_zero, neg_zero, zpow_zero] at hlow
        exact absurd hone (not_lt.mpr hlow)
      | succ j =>
        have hmiss := hmiss j (Nat.lt_succ_self j)
        rw [Bool.not_eq_true', decide_eq_false_iff_not, le_steps_mul_iff, not_le] at hmiss
        have hexponent : -((j + 1 : Nat) : Int) + 1 = -(j : Int) := by omega
        rwa [hexponent]
    · next hnone =>
      rw [List.find?_range_eq_none] at hnone
      have hmiss := hnone 100 (by decide)
      rw [Bool.not_eq_true', decide_eq_false_iff_not, le_steps_mul_iff] at hmiss
      refine absurd (le_trans (le_of_eq ?_) h) hmiss
      rw [leastValue, zpow_neg, one_div]
      rfl

/-! ## Decimals that round to a number -/

/-- Half of the distance, as a value, between neighbouring numbers above a number. -/
def halfSpacing (x : Binary64) : ℚ := spacing x.steps / 2 / stepsPerOne

theorem halfSpacing_pos (x : Binary64) : 0 < x.halfSpacing := by
  have h : (0 : ℚ) < spacing x.steps := by exact_mod_cast spacing_pos _
  exact div_pos (half_pos h) cast_stepsPerOne_pos

theorem halfSpacing_le (h : minNormal ≤ x.value) : x.halfSpacing ≤ roundoff * x.value := by
  rw [value, le_div_iff₀ cast_stepsPerOne_pos, minNormal_mul] at h
  have hspacing : spacing x.steps * 2 ^ 52 ≤ x.steps := spacing_mul_le (by exact_mod_cast h)
  have hspacing' : (spacing x.steps : ℚ) * 2 ^ 52 ≤ x.steps := by exact_mod_cast hspacing
  rw [halfSpacing, roundoff, value, ← mul_div_assoc, div_le_div_iff_of_pos_right cast_stepsPerOne_pos]
  linarith

theorem lt_halfSpacing (x : Binary64) : x.value / 2 ^ 54 < x.halfSpacing := by
  have h : (x.steps : ℚ) < spacing x.steps * 2 ^ 53 := by exact_mod_cast lt_spacing_mul x.steps
  rw [halfSpacing, value, div_right_comm, div_lt_div_iff_of_pos_right cast_stepsPerOne_pos]
  linarith

/-- The factor by which both parts of a number in units are larger than what they stand for. -/
def unitScale (k : Int) : ℚ := (10 ^ (-k).toNat : Nat) * stepsPerOne

theorem unitScale_pos (k : Int) : 0 < unitScale k :=
  mul_pos (cast_ten_pow_pos _) cast_stepsPerOne_pos

theorem cast_inUnits_fst (x : Binary64) (k : Int) :
    ((x.inUnits k).1 : ℚ) = unitScale k * x.value := by
  rw [inUnits, unitScale, value, mul_assoc, mul_div_cancel₀ _ cast_stepsPerOne_pos.ne',
    Nat.cast_mul, mul_comm]

theorem cast_inUnits_snd (x : Binary64) (k : Int) :
    ((x.inUnits k).2 : ℚ) = unitScale k * 10 ^ k := by
  have hpow : (10 : ℚ) ^ (-k).toNat ≠ 0 := pow_ne_zero _ (by norm_num)
  rw [inUnits, unitScale, ten_zpow_eq, Nat.cast_mul, mul_comm (10 ^ (-k).toNat : Nat).cast, mul_assoc]
  congr 1
  push_cast
  rw [mul_div_cancel₀ _ hpow]

theorem inUnits_snd_pos (x : Binary64) (k : Int) : 0 < (x.inUnits k).2 := by
  have h : (0 : ℚ) < (x.inUnits k).2 := by
    rw [cast_inUnits_snd]
    exact mul_pos (unitScale_pos k) (by positivity)
  exact_mod_cast h

/-- The distance, in steps, to the neighbouring number below. It is halved at a power of two. -/
def spacingBelow (x : Binary64) : Nat :=
  if x.steps = 2 ^ x.steps.log2 ∧ 1 < spacing x.steps then spacing x.steps / 2 else spacing x.steps

theorem spacingBelow_le (x : Binary64) : x.spacingBelow ≤ spacing x.steps := by
  rw [spacingBelow]
  split
  · exact Nat.div_le_self _ _
  · exact le_rfl

/-- Half of the distance, as a value, to the neighbouring number below. -/
def halfSpacingBelow (x : Binary64) : ℚ := x.spacingBelow / 2 / stepsPerOne

theorem halfSpacingBelow_le (x : Binary64) : x.halfSpacingBelow ≤ x.halfSpacing := by
  have h : (x.spacingBelow : ℚ) ≤ spacing x.steps := by exact_mod_cast spacingBelow_le x
  rw [halfSpacingBelow, halfSpacing, div_le_div_iff_of_pos_right cast_stepsPerOne_pos]
  linarith

theorem le_halfSpacingBelow (x : Binary64) : x.value / 2 ^ 54 ≤ x.halfSpacingBelow := by
  by_cases h : x.steps = 2 ^ x.steps.log2 ∧ 1 < spacing x.steps
  · have hlog : 53 ≤ x.steps.log2 := by
      by_contra! hlog
      have hone : spacing x.steps = 1 := by
        rw [spacing, Nat.sub_eq_zero_of_le (by omega), Nat.pow_zero]
      omega
    have hspacing : spacing x.steps = 2 ^ (x.steps.log2 - 53) * 2 := by
      rw [spacing, ← Nat.pow_succ]
      congr 1
      omega
    have hsteps : (x.steps : ℚ) = (2 ^ (x.steps.log2 - 53) : Nat) * 2 ^ 53 := by
      have h : x.steps = 2 ^ (x.steps.log2 - 53) * 2 ^ 53 := by
        rw [← Nat.pow_add, Nat.sub_add_cancel hlog]
        exact h.1
      exact_mod_cast h
    rw [halfSpacingBelow, spacingBelow, if_pos h, hspacing, Nat.mul_div_cancel _ (by decide), value,
      div_right_comm, div_le_div_iff_of_pos_right cast_stepsPerOne_pos, hsteps]
    linarith
  · have hsame : x.halfSpacingBelow = x.halfSpacing := by
      rw [halfSpacingBelow, spacingBelow, if_neg h, halfSpacing]
    rw [hsame]
    exact (lt_halfSpacing x).le

section

variable {gap distance : Nat} {δ : ℚ}

theorem two_mul_le_iff (h : (distance : ℚ) = unitScale k * δ) :
    2 * distance ≤ gap * 10 ^ (-k).toNat ↔ δ ≤ gap / 2 / stepsPerOne := by
  have hscale := cast_ten_pow_pos (-k).toNat
  rw [le_div_iff₀ cast_stepsPerOne_pos, le_div_iff₀ (by norm_num),
    ← mul_le_mul_iff_left₀ hscale, ← Nat.cast_le (α := ℚ)]
  push_cast [h, unitScale]
  ring_nf

theorem two_mul_lt_iff (h : (distance : ℚ) = unitScale k * δ) :
    2 * distance < gap * 10 ^ (-k).toNat ↔ δ < gap / 2 / stepsPerOne := by
  have hscale := cast_ten_pow_pos (-k).toNat
  rw [lt_div_iff₀ cast_stepsPerOne_pos, lt_div_iff₀ (by norm_num),
    ← mul_lt_mul_iff_left₀ hscale, ← Nat.cast_lt (α := ℚ)]
  push_cast [h, unitScale]
  ring_nf

end

theorem mul_snd_le_fst_iff :
    d * (x.inUnits k).2 ≤ (x.inUnits k).1 ↔ (d : ℚ) * 10 ^ k ≤ x.value := by
  rw [← mul_le_mul_iff_right₀ (unitScale_pos k), ← Nat.cast_le (α := ℚ), Nat.cast_mul,
    cast_inUnits_fst, cast_inUnits_snd]
  ring_nf

theorem cast_fst_sub (h : d * (x.inUnits k).2 ≤ (x.inUnits k).1) :
    (((x.inUnits k).1 - d * (x.inUnits k).2 : Nat) : ℚ) = unitScale k * (x.value - d * 10 ^ k) := by
  rw [Nat.cast_sub h, Nat.cast_mul, cast_inUnits_fst, cast_inUnits_snd]
  ring

theorem cast_sub_fst (h : (x.inUnits k).1 ≤ d * (x.inUnits k).2) :
    ((d * (x.inUnits k).2 - (x.inUnits k).1 : Nat) : ℚ) = unitScale k * (d * 10 ^ k - x.value) := by
  rw [Nat.cast_sub h, Nat.cast_mul, cast_inUnits_fst, cast_inUnits_snd]
  ring

/-- What rounds to a number is within half a spacing of it. -/
theorem abs_sub_le_of_holds (h : x.holds k d) : |(d : ℚ) * 10 ^ k - x.value| ≤ x.halfSpacing := by
  rw [holds] at h
  dsimp only at h
  split at h
  · next hle =>
    have hgap : 2 * ((x.inUnits k).1 - d * (x.inUnits k).2) ≤
        x.spacingBelow * 10 ^ (-k).toNat := by
      split at h
      · exact of_decide_eq_true h
      · exact (of_decide_eq_true h).le
    have hbelow := ((two_mul_le_iff (cast_fst_sub hle)).mp hgap).trans (halfSpacingBelow_le x)
    have hvalue := mul_snd_le_fst_iff.mp hle
    rw [abs_sub_comm, abs_of_nonneg (sub_nonneg.mpr hvalue)]
    exact hbelow
  · next hle =>
    have hgap : 2 * (d * (x.inUnits k).2 - (x.inUnits k).1) ≤
        spacing x.steps * 10 ^ (-k).toNat := by
      split at h
      · exact of_decide_eq_true h
      · exact (of_decide_eq_true h).le
    have habove := (two_mul_le_iff (cast_sub_fst (not_le.mp hle).le)).mp hgap
    have hvalue := not_le.mp fun h => hle (mul_snd_le_fst_iff.mpr h)
    rw [abs_of_pos (sub_pos.mpr hvalue)]
    exact habove

theorem holds_of_le (hle : (d : ℚ) * 10 ^ k ≤ x.value)
    (hnear : x.value - d * 10 ^ k < x.halfSpacingBelow) : x.holds k d := by
  have hle' := mul_snd_le_fst_iff.mpr hle
  have hgap : 2 * ((x.inUnits k).1 - d * (x.inUnits k).2) <
      x.spacingBelow * 10 ^ (-k).toNat := (two_mul_lt_iff (cast_fst_sub hle')).mpr hnear
  rw [holds]
  dsimp only
  rw [if_pos hle']
  split
  · exact decide_eq_true hgap.le
  · exact decide_eq_true hgap

theorem holds_of_lt (hlt : x.value < (d : ℚ) * 10 ^ k)
    (hnear : d * 10 ^ k - x.value < x.halfSpacing) : x.holds k d := by
  have hlt' := not_le.mpr hlt ∘ mul_snd_le_fst_iff.mp
  have hgap : 2 * (d * (x.inUnits k).2 - (x.inUnits k).1) <
      spacing x.steps * 10 ^ (-k).toNat :=
    (two_mul_lt_iff (cast_sub_fst (not_le.mp hlt').le)).mpr hnear
  rw [holds]
  dsimp only
  rw [if_neg hlt']
  split
  · exact decide_eq_true hgap.le
  · exact decide_eq_true hgap

theorem holds_of_abs_sub_lt (h : |(d : ℚ) * 10 ^ k - x.value| < x.halfSpacingBelow) :
    x.holds k d := by
  rcases le_or_gt ((d : ℚ) * 10 ^ k) x.value with hle | hlt
  · rw [abs_sub_comm, abs_of_nonneg (sub_nonneg.mpr hle)] at h
    exact holds_of_le hle h
  · rw [abs_of_pos (sub_pos.mpr hlt)] at h
    exact holds_of_lt hlt (h.trans_le (halfSpacingBelow_le x))

/-! ## The search -/

/-- The lower one of the two neighbours of a number on a grid. -/
def lowNeighbour (x : Binary64) (k : Int) : Nat := (x.inUnits k).1 / (x.inUnits k).2

theorem lowNeighbour_le (x : Binary64) (k : Int) : (x.lowNeighbour k : ℚ) * 10 ^ k ≤ x.value :=
  mul_snd_le_fst_iff.mp (Nat.div_mul_le_self _ _)

theorem lt_succ_lowNeighbour (x : Binary64) (k : Int) :
    x.value < ((x.lowNeighbour k + 1 : Nat) : ℚ) * 10 ^ k := by
  apply not_le.mp
  intro h
  have := (Nat.le_div_iff_mul_le (inUnits_snd_pos x k)).mpr (mul_snd_le_fst_iff.mpr h)
  exact Nat.not_succ_le_self _ this

theorem of_shortestWith? {d : Decimal} (h : x.shortestWith? n = some d) :
    d.exponent = x.magnitude - n + 1 ∧ 0 < d.digits ∧ x.holds d.exponent d.digits ∧
      d.digits ≤ x.lowNeighbour d.exponent + 1 := by
  rw [shortestWith?] at h
  dsimp only at h
  split_ifs at h with hboth hnearer hlow hhigh
  · cases h
    rw [Bool.and_eq_true] at hboth
    exact ⟨rfl, Nat.succ_pos _, hboth.2, le_rfl⟩
  · cases h
    simp only [Bool.and_eq_true, decide_eq_true_eq] at hboth
    exact ⟨rfl, hboth.1.2, hboth.1.1, Nat.le_succ _⟩
  · cases h
    simp only [Bool.and_eq_true, decide_eq_true_eq] at hlow
    exact ⟨rfl, hlow.2, hlow.1, Nat.le_succ _⟩
  · cases h
    exact ⟨rfl, Nat.succ_pos _, hhigh, le_rfl⟩

/-- A decimal on the grid that rounds to the number and is less than one unit away is found. -/
theorem shortestWith?_ne_none (hk : k = x.magnitude - n + 1) (hd : 0 < d) (hholds : x.holds k d)
    (hnear : |(d : ℚ) * 10 ^ k - x.value| < 10 ^ k) : x.shortestWith? n ≠ none := by
  have hunit : (0 : ℚ) < 10 ^ k := by positivity
  obtain ⟨hbelow, habove⟩ := abs_lt.mp hnear
  have hlow := lowNeighbour_le x k
  have hhigh := lt_succ_lowNeighbour x k
  have hneighbour : d = x.lowNeighbour k ∨ d = x.lowNeighbour k + 1 := by
    have h₁ : (x.lowNeighbour k : ℚ) < (d + 1 : Nat) := by
      refine lt_of_mul_lt_mul_right ?_ hunit.le
      push_cast
      linarith
    have h₂ : (d : ℚ) < (x.lowNeighbour k + 1 + 1 : Nat) := by
      refine lt_of_mul_lt_mul_right ?_ hunit.le
      push_cast at hhigh ⊢
      linarith
    rw [Nat.cast_lt] at h₁ h₂
    omega
  subst hk
  rw [shortestWith?]
  dsimp only
  rcases hneighbour with rfl | rfl
  · have hfound : (x.holds (x.magnitude - n + 1) (x.lowNeighbour (x.magnitude - n + 1)) &&
        decide (0 < x.lowNeighbour (x.magnitude - n + 1))) = true := by
      rw [hholds, Bool.true_and, decide_eq_true hd]
    rw [lowNeighbour] at hfound
    rw [hfound]
    split <;> simp
  · rw [lowNeighbour] at hholds
    rw [hholds]
    split_ifs with hboth hnearer hlow hhigh
    · simp
    · simp
    · simp
    · simp
    · exact absurd rfl hhigh

theorem minNormal_le_leastValue : 2 * minNormal ≤ leastValue := by
  have hpow : (2 : ℚ) * 10 ^ 100 ≤ 2 ^ 1022 := by
    calc (2 : ℚ) * 10 ^ 100 ≤ 2 * 16 ^ 100 := by
          have := pow_le_pow_left₀ (by norm_num) (by norm_num : (10 : ℚ) ≤ 16) 100
          linarith
      _ = 2 ^ (1 + 4 * 100) := by
          rw [pow_add, pow_mul]
          norm_num
      _ ≤ 2 ^ 1022 := pow_le_pow_right₀ (by norm_num) (by norm_num)
  rw [minNormal, leastValue, mul_one_div, div_le_div_iff₀ (by positivity) (by positivity), one_mul]
  exact hpow

theorem minNormal_pos : 0 < minNormal := by
  rw [minNormal]
  positivity

theorem leastValue_pos : 0 < leastValue := by
  rw [leastValue]
  positivity

theorem leastValue_le : leastValue ≤ 1 / 10 ^ 10 := by
  rw [leastValue]
  norm_num

/-- One of the neighbours is within half a unit. -/
theorem exists_near (x : Binary64) (k : Int) :
    ∃ d : Nat, |(d : ℚ) * 10 ^ k - x.value| ≤ 10 ^ k / 2 := by
  have hlow := lowNeighbour_le x k
  have hhigh := lt_succ_lowNeighbour x k
  push_cast at hhigh
  rcases le_total (x.value - x.lowNeighbour k * 10 ^ k) ((10 : ℚ) ^ k / 2) with h | h
  · refine ⟨x.lowNeighbour k, ?_⟩
    rw [abs_le]
    constructor <;> linarith
  · refine ⟨x.lowNeighbour k + 1, ?_⟩
    push_cast
    rw [abs_le]
    constructor <;> linarith

/-- With seventeen digits a neighbour rounds to the number. -/
theorem shortestWith?_seventeen (h : leastValue ≤ x.value) : x.shortestWith? 17 ≠ none := by
  obtain ⟨hmagnitude, -⟩ := magnitude_spec h
  have hpos : 0 < x.value := leastValue_pos.trans_le h
  obtain ⟨k, hk⟩ : ∃ k, k = x.magnitude - (17 : Nat) + 1 := ⟨_, rfl⟩
  have hunit : (0 : ℚ) < 10 ^ k := by positivity
  have hgrid : (10 : ℚ) ^ k * 10 ^ 16 ≤ x.value := by
    rw [← zpow_natCast, ← zpow_add₀ (by norm_num)]
    have hexponent : k + (16 : Nat) = x.magnitude := by omega
    rwa [hexponent]
  obtain ⟨d, hd⟩ := exists_near x k
  have hnear : |(d : ℚ) * 10 ^ k - x.value| < x.halfSpacingBelow := by
    refine hd.trans_lt (lt_of_lt_of_le ?_ (le_halfSpacingBelow x))
    linarith
  refine shortestWith?_ne_none hk ?_ (holds_of_abs_sub_lt hnear) (by linarith)
  rw [Nat.pos_iff_ne_zero]
  rintro rfl
  rw [Nat.cast_zero, zero_mul, zero_sub, abs_neg, abs_of_pos hpos] at hd
  linarith

/-- The search ends at the first grid with a hit. -/
theorem shortest_spec (h : leastValue ≤ x.value) :
    ∃ d n, n < 17 ∧ x.shortestWith? (n + 1) = some d ∧ x.shortest = d.trimZeros ∧
      ∀ m < n, x.shortestWith? (m + 1) = none := by
  have hpos : x.steps ≠ 0 := by
    intro hzero
    rw [value_eq_zero_iff.mpr hzero] at h
    exact absurd h (not_le.mpr leastValue_pos)
  cases hfind : (List.range 17).findSome? fun n => x.shortestWith? (n + 1) with
  | none =>
    rw [List.findSome?_eq_none_iff] at hfind
    exact absurd (hfind 16 (by decide)) (shortestWith?_seventeen h)
  | some d =>
    obtain ⟨before, n, after, hsplit, hhit, hmiss⟩ := List.findSome?_eq_some_iff.mp hfind
    have hn : n < 17 := List.mem_range.mp (hsplit ▸ by simp)
    refine ⟨d, n, hn, hhit, by rw [shortest, if_neg hpos, hfind, Option.getD_some], ?_⟩
    intro m hm
    apply hmiss m
    have hsorted := hsplit ▸ List.pairwise_lt_range (n := 17)
    have hafter := (List.pairwise_cons.mp (List.pairwise_append.mp hsorted).2.1).1
    have hmem : m ∈ before ++ n :: after := hsplit ▸ List.mem_range.mpr (hm.trans hn)
    rw [List.mem_append, List.mem_cons] at hmem
    rcases hmem with hmem | rfl | hmem
    · exact hmem
    · exact absurd hm (lt_irrefl _)
    · exact absurd (hafter m hmem) (not_lt.mpr hm.le)

/-- The value of the shortest decimal is the number with a relative error of one rounding at most. -/
theorem abs_value_shortest_sub_le (h : leastValue ≤ x.value) :
    |x.shortest.value - x.value| ≤ roundoff * x.value := by
  obtain ⟨d, n, -, hhit, hshortest, -⟩ := shortest_spec h
  obtain ⟨-, -, hholds, -⟩ := of_shortestWith? hhit
  rw [hshortest, d.value_trimZeros]
  refine (abs_sub_le_of_holds hholds).trans (halfSpacing_le ?_)
  have := minNormal_le_leastValue
  have := minNormal_pos
  linarith

theorem lowNeighbour_lt (h : leastValue ≤ x.value) (n : Nat) :
    x.lowNeighbour (x.magnitude - n + 1) < 10 ^ n := by
  obtain ⟨-, hmagnitude⟩ := magnitude_spec h
  have hunit : (0 : ℚ) < 10 ^ (x.magnitude - n + 1) := by positivity
  have hlow := (lowNeighbour_le x (x.magnitude - n + 1)).trans_lt hmagnitude
  have hsplit : (10 : ℚ) ^ (x.magnitude + 1) = 10 ^ n * 10 ^ (x.magnitude - n + 1) := by
    rw [← zpow_natCast, ← zpow_add₀ (by norm_num)]
    congr 1
    omega
  rw [hsplit] at hlow
  exact_mod_cast lt_of_mul_lt_mul_right hlow hunit.le

/-- The shortest decimal has at most seventeen digits, or it is a power of ten. -/
theorem shortest_bounds (h : leastValue ≤ x.value) :
    0 < x.shortest.digits ∧ x.shortest.digits ≤ 10 ^ 17 ∧
      x.magnitude - 16 ≤ x.shortest.exponent := by
  obtain ⟨d, n, hn, hhit, hshortest, -⟩ := shortest_spec h
  obtain ⟨hexponent, hpos, -, hle⟩ := of_shortestWith? hhit
  rw [hshortest]
  refine ⟨Decimal.digits_trimZeros_pos hpos.ne', ?_, ?_⟩
  · have hlow := lowNeighbour_lt h (n + 1)
    rw [← hexponent] at hlow
    have htrim := Decimal.digits_trimZeros_le hpos.ne'
    have hpow : 10 ^ (n + 1) ≤ 10 ^ 17 := Nat.pow_le_pow_right (by decide) (by omega)
    omega
  · have htrim := Decimal.exponent_le_trimZeros hpos.ne'
    push_cast at hexponent
    omega

theorem magnitude_eq {e : Int} (hlow : (10 : ℚ) ^ e ≤ x.value) (hhigh : x.value < 10 ^ (e + 1))
    (h : leastValue ≤ x.value) : x.magnitude = e := by
  obtain ⟨hbelow, habove⟩ := magnitude_spec h
  have hle := hlow.trans_lt habove
  have hge := hbelow.trans_lt hhigh
  rw [zpow_lt_zpow_iff_right₀ (by norm_num)] at hle hge
  omega

/-- The exponent of the shortest decimal is that of the number, up to the seventeen digits. -/
theorem exponent_shortest_ge {e : Int} (h : leastValue ≤ x.value) (he : (10 : ℚ) ^ e ≤ x.value) :
    e - 16 ≤ x.shortest.exponent := by
  have hlt := he.trans_lt (magnitude_spec h).2
  rw [zpow_lt_zpow_iff_right₀ (by norm_num)] at hlt
  have := (shortest_bounds h).2.2
  omega

theorem exponent_shortest_le {e : Int} (h : leastValue ≤ x.value) (he : x.value ≤ 10 ^ e) :
    x.shortest.exponent ≤ e := by
  have hunit : (0 : ℚ) < 10 ^ x.shortest.exponent := by positivity
  have hten : (0 : ℚ) < 10 ^ e := by positivity
  have hdigits : (1 : ℚ) ≤ x.shortest.digits := by exact_mod_cast (shortest_bounds h).1
  have hle : (10 : ℚ) ^ x.shortest.exponent ≤ x.shortest.value := by
    rw [Decimal.value]
    exact le_mul_of_one_le_left hunit.le hdigits
  have hnear := (abs_le.mp (abs_value_shortest_sub_le h)).2
  have hlt : (10 : ℚ) ^ x.shortest.exponent < 10 ^ (e + 1) := by
    rw [zpow_add₀ (by norm_num), zpow_one]
    rw [roundoff] at hnear
    linarith
  rw [zpow_lt_zpow_iff_right₀ (by norm_num)] at hlt
  omega

/-- Where the distance to other numbers is less than the unit of a grid, and a decimal of the grid
rounds to the number, the shortest decimal has its value and is on the grid. -/
theorem value_shortest_eq (h : leastValue ≤ x.value) (hk : k = x.magnitude - (n + 1 : Nat) + 1)
    (hd : 0 < d) (hholds : x.holds k d) (hgrid : 2 * x.halfSpacing < 10 ^ k) :
    x.shortest.value = d * 10 ^ k ∧ k ≤ x.shortest.exponent := by
  have hd' := abs_sub_le_of_holds hholds
  have hunit : (0 : ℚ) < 10 ^ k := by positivity
  have hhalf := x.halfSpacing_pos
  obtain ⟨d', m, -, hhit, hshortest, hmiss⟩ := shortest_spec h
  have hm : m ≤ n := by
    by_contra! hm
    exact shortestWith?_ne_none hk hd hholds (by linarith) (hmiss n hm)
  obtain ⟨hexponent, hpos, hholds', -⟩ := of_shortestWith? hhit
  have hd'' := abs_sub_le_of_holds hholds'
  -- the grid of the hit is part of the grid of the given decimal
  have hpart : (10 : ℚ) ^ d'.exponent = 10 ^ (n - m) * 10 ^ k := by
    have hsum : d'.exponent = (n - m : Nat) + k := by omega
    rw [hsum, zpow_add₀ (by norm_num), zpow_natCast]
  rw [hpart] at hd''
  have hclose : |(d : ℚ) - (d'.digits * 10 ^ (n - m) : Nat)| < 1 := by
    have hscale : ((d : ℚ) - (d'.digits * 10 ^ (n - m) : Nat)) * 10 ^ k =
        (d * 10 ^ k - x.value) - (d'.digits * (10 ^ (n - m) * 10 ^ k) - x.value) := by
      push_cast
      ring
    refine lt_of_mul_lt_mul_right ?_ hunit.le
    rw [one_mul, ← abs_of_pos hunit, ← abs_mul, abs_of_pos hunit, hscale]
    refine (abs_sub _ _).trans_lt ?_
    linarith
  have hsame : (d : Int) = (d'.digits * 10 ^ (n - m) : Nat) := by
    have hclose' : |(d : Int) - (d'.digits * 10 ^ (n - m) : Nat)| < 1 := by exact_mod_cast hclose
    have := Int.abs_lt_one_iff.mp hclose'
    omega
  have hsame' : (d : ℚ) = (d'.digits * 10 ^ (n - m) : Nat) := by exact_mod_cast hsame
  rw [hshortest, d'.value_trimZeros, Decimal.value, hpart, hsame']
  constructor
  · push_cast
    ring
  · have := Decimal.exponent_le_trimZeros hpos.ne'
    omega

end Binary64

end SuiteSplit

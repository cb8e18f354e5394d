import Mathlib.Algebra.Order.Field.Rat
import Mathlib.Tactic.FieldSimp
import Mathlib.Tactic.Linarith
import Mathlib.Tactic.NormNum
import Mathlib.Tactic.Positivity
import Mathlib.Tactic.Ring
import SuiteSplit.Number.Binary64

/-!
Rounding errors of binary64 operations.

A rounded whole number is off by half at most, so a rounded number of steps is off by half a spacing
at most. From the smallest normal number on that is a part of at most 2^-53 of the exact value.
-/

namespace SuiteSplit

section

variable {num den : Nat}

theorem abs_roundHalfEven_sub_le (num : Nat) (hden : 0 < den) :
    |(roundHalfEven num den : ℚ) - num / den| ≤ 1 / 2 := by
  have hpos : (0 : ℚ) < den := by exact_mod_cast hden
  have hsplit : (num : ℚ) / den = (num / den : Nat) + (num % den : Nat) / (den : ℚ) := by
    rw [add_div' _ _ _ hpos.ne', div_left_inj' hpos.ne']
    exact_mod_cast (Nat.div_add_mod' num den).symm
  have hexcess : ((num % den : Nat) : ℚ) / den * 2 = (2 * (num % den) : Nat) / (den : ℚ) := by
    push_cast
    ring
  have hrest : (0 : ℚ) ≤ (num % den : Nat) / (den : ℚ) := by positivity
  have hrest' : ((num % den : Nat) : ℚ) / den ≤ 1 := by
    rw [div_le_one hpos]
    exact_mod_cast (Nat.mod_lt num hden).le
  -- the excess is twice the rest, compared with one whole
  have hdown (h : 2 * (num % den) ≤ den) : ((num % den : Nat) : ℚ) / den ≤ 1 / 2 := by
    have : ((2 * (num % den) : Nat) : ℚ) / den ≤ 1 := (div_le_one hpos).mpr (by exact_mod_cast h)
    linarith
  have hup (h : den ≤ 2 * (num % den)) : 1 / 2 ≤ ((num % den : Nat) : ℚ) / den := by
    have : 1 ≤ ((2 * (num % den) : Nat) : ℚ) / den := (one_le_div hpos).mpr (by exact_mod_cast h)
    linarith
  rw [roundHalfEven, hsplit, abs_le]
  split_ifs with hless hmore heven
  · have := hdown hless.le
    constructor <;> linarith
  · have := hup hmore.le
    push_cast
    constructor <;> linarith
  · have := hdown (not_lt.mp hmore)
    constructor <;> linarith
  · have := hup (not_lt.mp hless)
    push_cast
    constructor <;> linarith

/-- A whole number less than a half away is the rounded one. -/
theorem roundHalfEven_eq_of_abs_sub_lt {m : Nat} (hden : 0 < den)
    (h : |(num : ℚ) / den - m| < 1 / 2) : roundHalfEven num den = m := by
  obtain ⟨hbelow, habove⟩ := abs_le.mp (abs_roundHalfEven_sub_le num hden)
  obtain ⟨hlow, hhigh⟩ := abs_lt.mp h
  have hlt : (roundHalfEven num den : ℚ) < (m + 1 : Nat) := by
    push_cast
    linarith
  have hgt : (m : ℚ) < (roundHalfEven num den + 1 : Nat) := by
    push_cast
    linarith
  rw [Nat.cast_lt] at hlt hgt
  omega

@[simp] theorem roundHalfEven_mul (m : Nat) (hden : 0 < den) : roundHalfEven (m * den) den = m := by
  simp [roundHalfEven, hden]

theorem div_le_roundHalfEven (num den : Nat) : num / den ≤ roundHalfEven num den := by
  rw [roundHalfEven]
  split_ifs <;> omega

theorem roundHalfEven_le {m : Nat} (hden : 0 < den) (h : num ≤ m * den) :
    roundHalfEven num den ≤ m := by
  have hwhole : num / den ≤ m := Nat.div_le_of_le_mul (by rwa [Nat.mul_comm])
  rcases Nat.lt_or_eq_of_le hwhole with hless | hsame
  · rw [roundHalfEven]
    split_ifs <;> omega
  · have hexact : num % den = 0 := by
      have hsplit := Nat.div_add_mod' num den
      rw [hsame] at hsplit
      omega
    rw [roundHalfEven]
    simp only [hexact, Nat.mul_zero, hden, if_true]
    exact hwhole

end

namespace Binary64

/-- The largest relative error of a rounding. -/
def roundoff : ℚ := 1 / 2 ^ 53

/-- The smallest number with a whole significand. -/
def minNormal : ℚ := 1 / 2 ^ 1022

def value (x : Binary64) : ℚ := x.steps / stepsPerOne

/-- The number is a value after one rounding. -/
def IsRounded (x : Binary64) (v : ℚ) : Prop := |x.value - v| ≤ roundoff * v

/-- The exponent stands as a variable, so that the power is never worked out. -/
theorem stepsPerOne_eq {k : Nat} (hk : k = 1074) : stepsPerOne = 2 ^ k := by
  rw [hk, stepsPerOne]

theorem stepsPerOne_pos : 0 < stepsPerOne := by
  obtain ⟨k, hk⟩ : ∃ k, k = 1074 := ⟨_, rfl⟩
  rw [stepsPerOne_eq hk]
  exact Nat.two_pow_pos k

theorem cast_stepsPerOne_pos : (0 : ℚ) < stepsPerOne := by exact_mod_cast stepsPerOne_pos

theorem minNormal_mul : minNormal * stepsPerOne = 2 ^ 52 := by
  obtain ⟨k, hk⟩ : ∃ k, k = 1022 := ⟨_, rfl⟩
  have hone : stepsPerOne = 2 ^ (k + 52) := stepsPerOne_eq (by omega)
  rw [minNormal, ← hk, hone]
  push_cast
  field_simp
  ring

theorem minNormal_le_one : minNormal ≤ 1 := by
  rw [minNormal, div_le_one (by positivity)]
  exact one_le_pow₀ (by norm_num)

theorem value_nonneg (x : Binary64) : 0 ≤ x.value := div_nonneg (Nat.cast_nonneg _) (Nat.cast_nonneg _)

@[simp] theorem value_zero : zero.value = 0 := by
  rw [value, zero, Nat.cast_zero, zero_div]

theorem value_eq_zero_iff {x : Binary64} : x.value = 0 ↔ x.steps = 0 := by
  rw [value, div_eq_zero_iff, or_iff_left cast_stepsPerOne_pos.ne', Nat.cast_eq_zero]

theorem IsRounded.le {x : Binary64} {v : ℚ} (h : x.IsRounded v) : x.value ≤ v + roundoff * v := by
  have := (abs_le.mp h).2
  linarith

theorem IsRounded.ge {x : Binary64} {v : ℚ} (h : x.IsRounded v) : v - roundoff * v ≤ x.value := by
  have := (abs_le.mp h).1
  linarith

/-! ## Spacing -/

theorem spacing_pos (n : Nat) : 0 < spacing n := Nat.two_pow_pos _

theorem spacing_mul_le {n : Nat} (h : 2 ^ 52 ≤ n) : spacing n * 2 ^ 52 ≤ n := by
  have hn : n ≠ 0 := by
    rintro rfl
    simp at h
  have hlog : 52 ≤ n.log2 := (Nat.le_log2 hn).mpr h
  rw [spacing, ← Nat.pow_add, Nat.sub_add_cancel hlog]
  exact Nat.log2_self_le hn

theorem spacing_mul_eq {v : Nat} (hv : 2 ^ 52 ≤ v) : 2 ^ 52 * spacing v = 2 ^ v.log2 := by
  have hlog : 52 ≤ v.log2 := by
    refine (Nat.le_log2 ?_).mpr hv
    rintro rfl
    simp at hv
  rw [spacing, ← Nat.pow_add]
  congr 1
  omega

theorem lt_spacing_mul (n : Nat) : n < spacing n * 2 ^ 53 := by
  rw [spacing, ← Nat.pow_add]
  exact Nat.lt_of_lt_of_le Nat.lt_log2_self (Nat.pow_le_pow_right (by decide) (by omega))

/-- Numbers below a power of two have a smaller spacing than that power. -/
theorem spacing_dvd_of_lt {n k : Nat} (h : n < 2 ^ (k + 53)) : spacing n ∣ 2 ^ k := by
  apply Nat.pow_dvd_pow
  by_cases hn : n = 0
  · simp [hn]
  · have hlog := (Nat.log2_lt hn).mpr h
    omega

/-- Half a spacing, in values, below a power of two. -/
theorem half_spacing_le_of_lt {n e : Nat} (h : n < 2 ^ e * stepsPerOne) :
    (spacing n : ℚ) / 2 / stepsPerOne ≤ 2 ^ e / 2 ^ 54 := by
  obtain ⟨j, hj⟩ : ∃ j, j = 1021 := ⟨_, rfl⟩
  have hsplit : stepsPerOne = 2 ^ j * 2 ^ 53 := by
    rw [← Nat.pow_add]
    exact stepsPerOne_eq (by omega)
  have hspacing : spacing n ≤ 2 ^ (e + j) := by
    refine Nat.le_of_dvd (Nat.two_pow_pos _) (spacing_dvd_of_lt ?_)
    rwa [Nat.add_assoc, Nat.pow_add, Nat.pow_add 2 j, ← hsplit]
  have hspacing' : (spacing n : ℚ) * 2 ^ 53 ≤ 2 ^ e * stepsPerOne := by
    have h := Nat.mul_le_mul_right (2 ^ 53) hspacing
    rw [Nat.pow_add, Nat.mul_assoc, ← hsplit] at h
    exact_mod_cast h
  rw [div_le_iff₀ cast_stepsPerOne_pos]
  linarith

/-! ## One rounding -/

theorem abs_steps_ofSteps_sub_le (num : Nat) {den : Nat} (hden : 0 < den) :
    |((ofSteps num den).steps : ℚ) - num / den| ≤ spacing (num / den) / 2 := by
  have hunit : (0 : ℚ) < spacing (num / den) := by exact_mod_cast spacing_pos _
  have hden' : (0 : ℚ) < den := by exact_mod_cast hden
  have h := abs_roundHalfEven_sub_le num (Nat.mul_pos hden (spacing_pos (num / den)))
  have hscale : ((ofSteps num den).steps : ℚ) - num / den =
      ((roundHalfEven num (den * spacing (num / den)) : ℚ) -
        num / (den * spacing (num / den) : Nat)) * spacing (num / den) := by
    rw [ofSteps]
    push_cast
    field_simp
  rw [hscale, abs_mul, abs_of_pos hunit]
  calc _ ≤ 1 / 2 * (spacing (num / den) : ℚ) := mul_le_mul_of_nonneg_right h hunit.le
    _ = _ := by ring

theorem ofSteps_mul {m den : Nat} (hden : 0 < den) (h : spacing m ∣ m) :
    ofSteps (m * den) den = ⟨m⟩ := by
  obtain ⟨k, hk⟩ := h
  have hdiv : m * den / den = m := Nat.mul_div_cancel m hden
  have hnum : m * den = k * (den * spacing m) := by
    conv_lhs => rw [hk]
    ring
  rw [ofSteps, hdiv, hnum, roundHalfEven_mul k (Nat.mul_pos hden (spacing_pos m)), Nat.mul_comm k,
    ← hk]

@[simp] theorem ofSteps_zero (den : Nat) : ofSteps 0 den = zero := by
  simp [ofSteps, roundHalfEven, zero]

/-- A rounding is off by half a spacing at most. -/
theorem abs_ofSteps_sub_le {num den : Nat} {v : ℚ} (hden : 0 < den)
    (hv : v = num / den / stepsPerOne) :
    |(ofSteps num den).value - v| ≤ spacing (num / den) / 2 / stepsPerOne := by
  have hone := cast_stepsPerOne_pos
  have hscale : (ofSteps num den).value - v =
      (((ofSteps num den).steps : ℚ) - num / den) / stepsPerOne := by
    rw [value, hv, sub_div]
  rw [hscale, abs_div, abs_of_pos hone]
  exact div_le_div_of_nonneg_right (abs_steps_ofSteps_sub_le num hden) hone.le

theorem isRounded_ofSteps {num den : Nat} {v : ℚ} (hden : 0 < den)
    (hv : v = num / den / stepsPerOne) (hnormal : v = 0 ∨ minNormal ≤ v) :
    (ofSteps num den).IsRounded v := by
  have hden' : (0 : ℚ) < den := by exact_mod_cast hden
  rcases hnormal with hzero | hnormal
  · have hnum : num = 0 := by
      have h : (num : ℚ) / den = 0 := by
        rw [hzero, eq_comm, div_eq_zero_iff] at hv
        exact hv.resolve_right cast_stepsPerOne_pos.ne'
      exact_mod_cast (div_eq_zero_iff.mp h).resolve_right hden'.ne'
    rw [IsRounded, hnum, ofSteps_zero, value_zero, hzero, sub_zero, abs_zero, mul_zero]
  · have hlarge : 2 ^ 52 ≤ num / den := by
      rw [Nat.le_div_iff_mul_le hden]
      rw [hv, le_div_iff₀ cast_stepsPerOne_pos, le_div_iff₀ hden'] at hnormal
      rw [minNormal_mul] at hnormal
      exact_mod_cast hnormal
    have hunit : (spacing (num / den) : ℚ) * 2 ^ 52 ≤ num / den := by
      calc (spacing (num / den) : ℚ) * 2 ^ 52 ≤ (num / den : Nat) := by
            exact_mod_cast spacing_mul_le hlarge
        _ ≤ num / den := by
            rw [le_div_iff₀ hden']
            exact_mod_cast Nat.div_mul_le_self num den
    refine (abs_ofSteps_sub_le hden hv).trans ?_
    rw [div_le_iff₀ cast_stepsPerOne_pos]
    calc (spacing (num / den) : ℚ) / 2 ≤ roundoff * (num / den) := by
          rw [roundoff]
          linarith
      _ = roundoff * v * stepsPerOne := by
        rw [hv, mul_assoc, div_mul_cancel₀ _ cast_stepsPerOne_pos.ne']

/-- Below a power of two it is off by half of the spacing there at most. -/
theorem abs_ofSteps_sub_le_of_lt {num den e : Nat} {v : ℚ} (hden : 0 < den)
    (hv : v = num / den / stepsPerOne) (hlt : v < 2 ^ e) :
    |(ofSteps num den).value - v| ≤ 2 ^ e / 2 ^ 54 := by
  have hden' : (0 : ℚ) < den := by exact_mod_cast hden
  have hbelow : num / den < 2 ^ e * stepsPerOne := by
    rw [Nat.div_lt_iff_lt_mul hden]
    rw [hv, div_lt_iff₀ cast_stepsPerOne_pos, div_lt_iff₀ hden'] at hlt
    exact_mod_cast hlt
  exact (abs_ofSteps_sub_le hden hv).trans (half_spacing_le_of_lt hbelow)

/-! ## Operations -/

section

variable {x y : Binary64}

theorem isRounded_nearest (num : Nat) {den : Nat} (hden : 0 < den)
    (hnormal : (num : ℚ) / den = 0 ∨ minNormal ≤ (num : ℚ) / den) :
    (nearest num den).IsRounded (num / den) := by
  refine isRounded_ofSteps hden ?_ hnormal
  have := cast_stepsPerOne_pos.ne'
  push_cast
  field_simp

theorem isRounded_ofNat (n : Nat) : (ofNat n).IsRounded n := by
  have h := isRounded_nearest n Nat.one_pos ?_
  · rwa [Nat.cast_one, div_one] at h
  · rcases n.eq_zero_or_pos with rfl | hn
    · simp
    · right
      have hone : (1 : ℚ) ≤ n := by exact_mod_cast hn
      rw [Nat.cast_one, div_one]
      exact minNormal_le_one.trans hone

/-- Whole numbers with a short significand are exact. -/
theorem value_ofNat_mul_two_pow {m : Nat} (hm : m < 2 ^ 53) (k : Nat) :
    (ofNat (m * 2 ^ k)).value = (m * 2 ^ k : Nat) := by
  have hspacing : spacing (m * 2 ^ k * stepsPerOne) ∣ m * 2 ^ k * stepsPerOne := by
    obtain ⟨j, hj⟩ : ∃ j, j = 1074 := ⟨_, rfl⟩
    rw [stepsPerOne_eq hj, Nat.mul_assoc, ← Nat.pow_add]
    refine (spacing_dvd_of_lt ?_).mul_left m
    rw [Nat.pow_add 2 (k + j), Nat.mul_comm]
    exact Nat.mul_lt_mul_of_pos_left hm (Nat.two_pow_pos _)
  have hsteps := ofSteps_mul Nat.one_pos hspacing
  rw [Nat.mul_one] at hsteps
  rw [ofNat, nearest, hsteps, value, Nat.cast_mul, mul_div_assoc, div_self cast_stepsPerOne_pos.ne',
    mul_one]

theorem value_ofNat {n : Nat} (hn : n < 2 ^ 53) : (ofNat n).value = n := by
  simpa using value_ofNat_mul_two_pow hn 0

/-- The powers of ten up to 10^22 are exact. -/
theorem value_ofNat_ten_pow {k : Nat} (hk : k ≤ 22) : (ofNat (10 ^ k)).value = (10 ^ k : Nat) := by
  have hsplit : 10 ^ k = 5 ^ k * 2 ^ k := by rw [← Nat.mul_pow]
  have hfive : 5 ^ k < 2 ^ 53 :=
    Nat.lt_of_le_of_lt (Nat.pow_le_pow_right (by decide) hk) (by decide)
  rw [hsplit]
  exact value_ofNat_mul_two_pow hfive k

theorem isRounded_add (h : x.value + y.value = 0 ∨ minNormal ≤ x.value + y.value) :
    (x + y).IsRounded (x.value + y.value) := by
  refine isRounded_ofSteps Nat.one_pos ?_ h
  rw [value, value]
  push_cast
  ring

theorem mul_value_eq (x y : Binary64) :
    x.value * y.value = (x.steps * y.steps : Nat) / (stepsPerOne : ℚ) / stepsPerOne := by
  rw [value, value, div_mul_div_comm, Nat.cast_mul, div_div]

theorem isRounded_mul (h : x.value * y.value = 0 ∨ minNormal ≤ x.value * y.value) :
    (x * y).IsRounded (x.value * y.value) :=
  isRounded_ofSteps stepsPerOne_pos (mul_value_eq x y) h

/-- The error of a product below a power of two. -/
theorem abs_mul_sub_le_of_lt {e : Nat} (h : x.value * y.value < 2 ^ e) :
    |(x * y).value - x.value * y.value| ≤ 2 ^ e / 2 ^ 54 :=
  abs_ofSteps_sub_le_of_lt stepsPerOne_pos (mul_value_eq x y) h

theorem steps_pos (h : 0 < x.value) : 0 < x.steps :=
  Nat.pos_of_ne_zero fun hzero => h.ne' (value_eq_zero_iff.mpr hzero)

theorem div_value_eq (hy : 0 < y.value) :
    x.value / y.value = (x.steps * stepsPerOne : Nat) / (y.steps : ℚ) / stepsPerOne := by
  have hsteps : (0 : ℚ) < y.steps := by exact_mod_cast steps_pos hy
  have := cast_stepsPerOne_pos.ne'
  rw [value, value]
  push_cast
  field_simp

theorem isRounded_div (hy : 0 < y.value)
    (h : x.value / y.value = 0 ∨ minNormal ≤ x.value / y.value) :
    (x / y).IsRounded (x.value / y.value) :=
  isRounded_ofSteps (steps_pos hy) (div_value_eq hy) h

/-- The error of a quotient below a power of two. -/
theorem abs_div_sub_le_of_lt {e : Nat} (hy : 0 < y.value) (h : x.value / y.value < 2 ^ e) :
    |(x / y).value - x.value / y.value| ≤ 2 ^ e / 2 ^ 54 :=
  abs_ofSteps_sub_le_of_lt (steps_pos hy) (div_value_eq hy) h

end

end Binary64

end SuiteSplit

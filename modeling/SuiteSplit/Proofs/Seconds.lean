import SuiteSplit.Manifest.Codec
import SuiteSplit.Proofs.JsonNumber

/-!
Durations survive as seconds. Encoding and decoding round several times, but below 2^23 seconds all
errors together are less than half a nanosecond, so the last rounding, to whole nanoseconds, gives
back the duration.

Below 2^20 seconds the errors just add up to less than that. From there on they do not, but the
shortest decimal then states the nanoseconds exactly, and decoding it rounds only once. At 2^23 seconds
this ends, since neighbouring numbers are further apart there than nanoseconds.
-/

namespace SuiteSplit

open Binary64 Json.Number

theorem Binary64.minNormal_le {v : ℚ} (hv : 1 / 10 ^ 10 ≤ v) : minNormal ≤ v := by
  have h := minNormal_le_leastValue
  have hpos := minNormal_pos
  have hleast := leastValue_le
  linarith

namespace Duration

/-- The exact number of seconds. -/
def exact (d : Duration) : ℚ := d.nanos / 10 ^ 9

variable {d : Duration} {x y : Binary64}

theorem exact_nonneg (d : Duration) : 0 ≤ d.exact := by
  rw [exact]
  positivity

theorem exact_mul (d : Duration) : d.exact * 10 ^ 9 = d.nanos := by
  rw [exact]
  ring

theorem cast_nanosPerSecond : (nanosPerSecond : ℚ) = 10 ^ 9 := by norm_num [nanosPerSecond]

theorem exact_eq (d : Duration) : d.exact = d.seconds + d.subsecond / 10 ^ 9 := by
  have h : (d.nanos : ℚ) = 10 ^ 9 * d.seconds + d.subsecond := by
    exact_mod_cast (Nat.div_add_mod d.nanos nanosPerSecond).symm
  rw [exact, h]
  ring

theorem subsecond_lt (d : Duration) : d.subsecond < 10 ^ 9 := Nat.mod_lt _ (by decide)

theorem cast_subsecond_nonneg (d : Duration) : (0 : ℚ) ≤ d.subsecond / 10 ^ 9 := by positivity

theorem cast_subsecond_le (d : Duration) : (d.subsecond : ℚ) / 10 ^ 9 ≤ 1 - 1 / 10 ^ 9 := by
  have h : (d.subsecond : ℚ) + 1 ≤ 10 ^ 9 := by exact_mod_cast d.subsecond_lt
  linarith

/-- A duration is zero or at least a nanosecond. -/
theorem exact_eq_zero_or_le (d : Duration) : d.exact = 0 ∨ 1 / 10 ^ 9 ≤ d.exact := by
  rcases d.nanos.eq_zero_or_pos with h | h
  · left
    rw [exact, h, Nat.cast_zero, zero_div]
  · right
    have h' : (1 : ℚ) ≤ d.nanos := by exact_mod_cast h
    rw [exact]
    linarith

/-! ## Encoding -/

/-- The nanoseconds beyond the whole seconds, as they are encoded. -/
def fraction (d : Duration) : Binary64 := .ofNat d.subsecond / .ofNat nanosPerSecond

theorem value_nanosPerSecond : (Binary64.ofNat nanosPerSecond).value = 10 ^ 9 := by
  have h := value_ofNat_ten_pow (k := 9) (by decide)
  rw [show nanosPerSecond = 10 ^ 9 from rfl, h]
  norm_num

theorem isRounded_fraction (d : Duration) : d.fraction.IsRounded (d.subsecond / 10 ^ 9) := by
  have hsmall : d.subsecond < 2 ^ 53 := d.subsecond_lt.trans (by decide)
  have h := isRounded_div (x := .ofNat d.subsecond) (y := .ofNat nanosPerSecond)
  rw [value_nanosPerSecond, value_ofNat hsmall] at h
  apply h (by norm_num)
  rcases d.subsecond.eq_zero_or_pos with hzero | hpos
  · left
    rw [hzero, Nat.cast_zero, zero_div]
  · right
    have hpos' : (1 : ℚ) ≤ d.subsecond := by exact_mod_cast hpos
    exact minNormal_le (by linarith)

/-- The parts of a duration are encoded with one rounding each. -/
theorem abs_parts_sub_le (d : Duration) :
    |(Binary64.ofNat d.seconds).value + d.fraction.value - d.exact| ≤ roundoff * d.exact := by
  obtain ⟨hs₁, hs₂⟩ := abs_le.mp (isRounded_ofNat d.seconds)
  obtain ⟨hq₁, hq₂⟩ := abs_le.mp (isRounded_fraction d)
  rw [exact_eq, mul_add, abs_le]
  constructor <;> linarith

theorem isRounded_toSeconds (d : Duration) :
    d.toSeconds.IsRounded ((Binary64.ofNat d.seconds).value + d.fraction.value) := by
  have hparts := abs_le.mp d.abs_parts_sub_le
  rw [roundoff] at hparts
  apply isRounded_add (x := .ofNat d.seconds) (y := d.fraction)
  rcases d.exact_eq_zero_or_le with h | h
  · left
    rw [h] at hparts
    linarith
  · exact .inr (minNormal_le (by linarith))

theorem abs_toSeconds_sub_le (d : Duration) :
    |d.toSeconds.value - d.exact| ≤ 3 * roundoff * d.exact := by
  have hnonneg := d.exact_nonneg
  have hparts := abs_le.mp d.abs_parts_sub_le
  have hsum := abs_le.mp d.isRounded_toSeconds
  rw [roundoff] at *
  rw [abs_le]
  constructor <;> linarith

/-! ## Decoding -/

theorem exists_decodes (hlarge : d.exact ≤ 10 ^ 20) : ∃ y, Decodes d.toSeconds y := by
  have hx := abs_le.mp d.abs_toSeconds_sub_le
  rw [roundoff] at hx
  refine Json.Number.exists_decodes ?_ (by linarith)
  rcases d.exact_eq_zero_or_le with h | h
  · left
    rw [h] at hx
    linarith
  · right
    have hleast := leastValue_le
    linarith

/-- All errors together are ten roundings at most. -/
theorem abs_decoded_sub_le (h : Decodes d.toSeconds y) :
    |y.value - d.exact| ≤ 10 * roundoff * d.exact := by
  have hnonneg := d.exact_nonneg
  have hx := abs_le.mp d.abs_toSeconds_sub_le
  have hshortest := abs_le.mp h.near
  have hy := abs_le.mp h.decoded.abs_sub_le
  rw [h.value_eq] at hy
  rw [roundoff] at *
  rw [abs_le]
  constructor <;> linarith

theorem abs_scaled_sub_le (y : Binary64) (k : Nat) : |(y.scaled k : ℚ) - y.value * k| ≤ 1 / 2 := by
  have h := abs_roundHalfEven_sub_le (y.steps * k) stepsPerOne_pos
  rw [scaled, value, div_mul_eq_mul_div]
  rwa [Nat.cast_mul] at h

theorem scaled_eq_of_abs_sub_lt {k m : Nat} (h : |y.value * k - m| < 1 / 2) : y.scaled k = m := by
  refine roundHalfEven_eq_of_abs_sub_lt stepsPerOne_pos ?_
  rwa [Nat.cast_mul, ← div_mul_eq_mul_div, ← value]

/-- A number less than half a nanosecond away is decoded as the duration. -/
theorem ofSeconds?_eq_some (h : |y.value - d.exact| < 1 / 2 / 10 ^ 9) :
    ofSeconds? y = some d := by
  have hexact := d.exact_mul
  have hlt : (d.nanos : ℚ) + 1 ≤ 2 ^ 64 * 10 ^ 9 := by exact_mod_cast d.nanos_lt
  obtain ⟨hbelow, habove⟩ := abs_lt.mp h
  have hlimit : y.ltNat (2 ^ 64) := by
    refine decide_eq_true (steps_lt_of_value_lt ?_)
    push_cast
    linarith
  have hscaled : y.scaled nanosPerSecond = d.nanos := by
    apply scaled_eq_of_abs_sub_lt
    rw [cast_nanosPerSecond, ← hexact, abs_lt]
    constructor <;> linarith
  have hsame : ofNanos d.nanos = d := by
    ext
    rw [nanos_ofNanos, Nat.min_eq_left d.nanos_le_longest]
  rw [ofSeconds?, if_pos hlimit, hscaled, hsame]

/-! ## Up to 2^20 seconds -/

theorem decoded_below_one (h : Decodes d.toSeconds y) (hone : d.exact < 1) :
    |y.value - d.exact| < 1 / 2 / 10 ^ 9 := by
  have hy := abs_decoded_sub_le h
  rw [roundoff] at hy
  linarith

/-- Errors of one rounding each: the fraction, the sum, the shortest decimal, its digits, and the
quotient by a power of ten. -/
theorem decoded_below (h : Decodes d.toSeconds y) (hone : 0 < d.seconds)
    (hlimit : d.seconds < 2 ^ 20) : |y.value - d.exact| < 1 / 2 / 10 ^ 9 := by
  have hone' : (1 : ℚ) ≤ d.seconds := by exact_mod_cast hone
  have hlimit' : (d.seconds : ℚ) + 1 ≤ 2 ^ 20 := by exact_mod_cast hlimit
  have hpart := d.cast_subsecond_nonneg
  have hpart' := d.cast_subsecond_le
  have hfraction := abs_le.mp (isRounded_fraction d)
  have hsum := abs_le.mp d.isRounded_toSeconds
  rw [value_ofNat (hlimit.trans (by decide))] at hsum
  have hshortest := abs_le.mp h.near
  have hscale : (Json.Number.ofBinary64 d.toSeconds).scale.natAbs ≤ 22 := by
    have hleast := leastValue_le
    rw [roundoff] at hsum hfraction
    have hlow := exponent_shortest_ge (x := d.toSeconds) (e := -1) (by linarith)
      (by norm_num; linarith)
    have hhigh := exponent_shortest_le (x := d.toSeconds) (e := 7) (by linarith)
      (by norm_num; linarith)
    rcases h.scale_eq with hscale | hscale <;> omega
  obtain ⟨w, hy, -, -, hw⟩ := h.decoded
  have hw := abs_le.mp (hw hscale).1
  have hy := abs_le.mp hy
  rw [h.value_eq] at hw
  rw [exact_eq]
  rw [roundoff] at *
  rw [abs_lt]
  constructor <;> linarith

end Duration

/-! ## From 2^20 seconds on -/

namespace Binary64

variable {x y : Binary64} {v : Nat}

/-- A rounded whole number of steps is a multiple of the spacing, with a whole significand. -/
theorem exists_steps_ofSteps_one (hv : 2 ^ 52 ≤ v) :
    ∃ k, (ofSteps v 1).steps = k * spacing v ∧ 2 ^ 52 ≤ k := by
  refine ⟨roundHalfEven v (1 * spacing v), ?_, ?_⟩
  · rw [ofSteps, Nat.div_one]
  · refine le_trans ?_ (div_le_roundHalfEven _ _)
    rw [Nat.one_mul, Nat.le_div_iff_mul_le (spacing_pos v), Nat.mul_comm]
    exact spacing_mul_le hv

/-- Rounding does not come to a smaller spacing. Below a rounded number it comes to none either, unless
the number is the power of two at or below what is rounded. -/
theorem spacing_le_of_ofSteps_one (hv : 2 ^ 52 ≤ v) :
    spacing v ≤ spacing (ofSteps v 1).steps ∧
      (spacing v ≤ (ofSteps v 1).spacingBelow ∨ (ofSteps v 1).steps = 2 ^ v.log2) := by
  obtain ⟨k, hsteps, hk⟩ := exists_steps_ofSteps_one hv
  generalize ofSteps v 1 = x at hsteps ⊢
  have hlarge : 2 ^ v.log2 ≤ x.steps := by
    rw [hsteps, ← spacing_mul_eq hv]
    exact Nat.mul_le_mul_right _ hk
  have hpos : x.steps ≠ 0 := (lt_of_lt_of_le (Nat.two_pow_pos _) hlarge).ne'
  have hlog : v.log2 ≤ x.steps.log2 := (Nat.le_log2 hpos).mpr hlarge
  have hspacing : spacing v ≤ spacing x.steps := Nat.pow_le_pow_right (by decide) (by omega)
  refine ⟨hspacing, ?_⟩
  rw [spacingBelow]
  split
  · next hpower =>
    rcases hlog.eq_or_lt with hsame | hless
    · exact .inr (hsame ▸ hpower.1)
    · left
      have hone : 52 < x.steps.log2 := by
        by_contra! hsmall
        have hunit : spacing x.steps = 1 := by
          rw [spacing, Nat.sub_eq_zero_of_le hsmall, Nat.pow_zero]
        omega
      have hdouble : spacing x.steps = 2 ^ (x.steps.log2 - 53) * 2 := by
        rw [spacing, ← Nat.pow_succ]
        congr 1
        omega
      rw [hdouble, Nat.mul_div_cancel _ (by decide)]
      exact Nat.pow_le_pow_right (by decide) (by omega)
  · exact .inl hspacing

end Binary64

/-- A whole number of nanoseconds is not near the middle between two numbers of a binary grid. -/
theorem lt_abs_sub_midpoint {n m : Int} {j : Nat} (hm : m % 2 = 1) (hj : 9 < j) (hj' : j ≤ 33) :
    (1 : ℚ) / 2 ^ 54 < |(n : ℚ) / 10 ^ 9 - m / 2 ^ j| := by
  obtain ⟨i, rfl⟩ : ∃ i, j = i + 10 := ⟨j - 10, by omega⟩
  have hodd : n * 2 ^ (i + 1) - m * 5 ^ 9 ≠ 0 := by
    rw [pow_succ, ← mul_assoc]
    omega
  have hone : (1 : ℚ) ≤ |((n * 2 ^ (i + 1) - m * 5 ^ 9 : Int) : ℚ)| := by
    exact_mod_cast Int.one_le_abs hodd
  have hpow : (2 : ℚ) ^ i ≤ 2 ^ 23 := pow_le_pow_right₀ (by norm_num) (by omega)
  have hpos : (0 : ℚ) < 2 ^ i := by positivity
  have hsplit : (n : ℚ) / 10 ^ 9 - m / 2 ^ (i + 10) =
      (n * 2 ^ (i + 1) - m * 5 ^ 9 : Int) / (5 ^ 9 * 2 ^ (i + 10)) := by
    push_cast
    field_simp
    ring
  have hden : (0 : ℚ) < 5 ^ 9 * 2 ^ (i + 10) := by positivity
  rw [hsplit, abs_div, abs_of_pos hden, lt_div_iff₀ hden]
  refine lt_of_lt_of_le ?_ hone
  rw [pow_add]
  linarith

namespace Duration

variable {d : Duration} {x y : Binary64}

/-- The steps of the encoded parts, which are rounded to the encoded duration. -/
def partSteps (d : Duration) : Nat := (Binary64.ofNat d.seconds).steps + d.fraction.steps

theorem toSeconds_eq_ofSteps (d : Duration) : d.toSeconds = ofSteps d.partSteps 1 := rfl

theorem cast_partSteps (h : d.seconds < 2 ^ 53) :
    (d.partSteps : ℚ) = (d.seconds + d.fraction.value) * stepsPerOne := by
  have hne := cast_stepsPerOne_pos.ne'
  rw [← value_ofNat h, value, value, ← add_div, div_mul_cancel₀ _ hne, partSteps, Nat.cast_add]

theorem parts_value_eq (h : d.seconds < 2 ^ 53) :
    d.seconds + d.fraction.value = d.partSteps / (1 : Nat) / stepsPerOne := by
  rw [cast_partSteps h, Nat.cast_one, div_one, mul_div_cancel_right₀ _ cast_stepsPerOne_pos.ne']

theorem abs_fraction_sub_le (d : Duration) :
    |d.fraction.value - d.subsecond / 10 ^ 9| ≤ 1 / 2 ^ 54 := by
  have hsmall : d.subsecond < 2 ^ 53 := d.subsecond_lt.trans (by decide)
  have hless : (d.subsecond : ℚ) < 10 ^ 9 := by exact_mod_cast d.subsecond_lt
  have h := abs_div_sub_le_of_lt (x := .ofNat d.subsecond) (y := .ofNat nanosPerSecond) (e := 0)
  rw [value_nanosPerSecond, value_ofNat hsmall, pow_zero, div_lt_one (by norm_num)] at h
  exact h (by norm_num) hless

/-- A duration from 2^20 seconds on as a binary grid sees it: `j` tells the grid of the halved
spacings, and `k` is the significand of the encoded duration. -/
structure OnGrid (d : Duration) (j k : Nat) : Prop where
  ge : 31 ≤ j
  le : j ≤ 33
  large : 2 ^ 52 ≤ d.partSteps
  log_ge : 1094 ≤ d.partSteps.log2
  half_eq : (spacing d.partSteps : ℚ) / 2 / stepsPerOne = 1 / 2 ^ j
  value_eq : d.toSeconds.value = 2 * k / 2 ^ j
  near : |d.toSeconds.value - (d.seconds + d.fraction.value)| ≤ 1 / 2 ^ j

/-- The parts of a duration between 2^20 and 2^23 seconds have one of three spacings. -/
theorem log2_partSteps (hlow : 2 ^ 20 ≤ d.seconds) (hhigh : d.seconds < 2 ^ 23) :
    1094 ≤ d.partSteps.log2 ∧ d.partSteps.log2 ≤ 1096 := by
  have hlow' : (2 : ℚ) ^ 20 ≤ d.seconds := by exact_mod_cast hlow
  have hhigh' : (d.seconds : ℚ) + 1 ≤ 2 ^ 23 := by exact_mod_cast hhigh
  have hfraction := abs_le.mp d.abs_fraction_sub_le
  have hpart := d.cast_subsecond_le
  obtain ⟨c, hc⟩ : ∃ c, c = 1074 := ⟨_, rfl⟩
  have hparts : (d.partSteps : ℚ) = 2 ^ c * (d.seconds + d.fraction.value) := by
    rw [cast_partSteps (by omega), stepsPerOne_eq hc, mul_comm]
    push_cast
    rfl
  have hge : 2 ^ (c + 20) ≤ d.partSteps := by
    have h : (2 ^ (c + 20) : ℚ) ≤ d.partSteps := by
      rw [hparts, pow_add]
      refine mul_le_mul_of_nonneg_left ?_ (by positivity)
      linarith [d.fraction.value_nonneg]
    exact_mod_cast h
  have hlt : d.partSteps < 2 ^ (c + 23) := by
    have h : (d.partSteps : ℚ) < 2 ^ (c + 23) := by
      rw [hparts, pow_add]
      refine mul_lt_mul_of_pos_left ?_ (by positivity)
      linarith
    exact_mod_cast h
  have hpos : d.partSteps ≠ 0 := (lt_of_lt_of_le (Nat.two_pow_pos _) hge).ne'
  have hlog : c + 20 ≤ d.partSteps.log2 := (Nat.le_log2 hpos).mpr hge
  have hlog' : d.partSteps.log2 < c + 23 := (Nat.log2_lt hpos).mpr hlt
  omega

/-- Half a spacing, in seconds. -/
theorem half_spacing_div_stepsPerOne {n j : Nat} (hlarge : 52 ≤ n.log2) (h : n.log2 + j = 1127) :
    (spacing n : ℚ) / 2 / stepsPerOne = 1 / 2 ^ j := by
  obtain ⟨c, hc⟩ : ∃ c, c = 1074 := ⟨_, rfl⟩
  have hspacing : spacing n * 2 ^ j = 2 * stepsPerOne := by
    rw [spacing, ← Nat.pow_add, stepsPerOne_eq hc, Nat.mul_comm 2, ← Nat.pow_succ]
    exact congrArg (2 ^ ·) (by omega)
  have hspacing' : (spacing n : ℚ) * 2 ^ j = 2 * stepsPerOne := by exact_mod_cast hspacing
  rw [div_div, div_eq_div_iff (mul_pos two_pos cast_stepsPerOne_pos).ne' (by positivity), hspacing',
    one_mul]

theorem exists_onGrid (hlow : 2 ^ 20 ≤ d.seconds) (hhigh : d.seconds < 2 ^ 23) :
    ∃ j k, OnGrid d j k := by
  obtain ⟨hlog, hlog'⟩ := log2_partSteps hlow hhigh
  have hlarge : 2 ^ 52 ≤ d.partSteps := by
    have hpos : d.partSteps ≠ 0 := by
      intro hzero
      rw [hzero, Nat.log2_zero] at hlog
      omega
    exact (Nat.le_log2 hpos).mp (by omega)
  obtain ⟨k, hk, -⟩ := exists_steps_ofSteps_one hlarge
  obtain ⟨j, hj⟩ : ∃ j, d.partSteps.log2 + j = 1127 := ⟨1127 - d.partSteps.log2, by omega⟩
  have hhalf := half_spacing_div_stepsPerOne (by omega) hj
  refine ⟨j, k, by omega, by omega, hlarge, hlog, hhalf, ?_, ?_⟩
  · have hvalue : d.toSeconds.value = (k * spacing d.partSteps : Nat) / (stepsPerOne : ℚ) := by
      rw [toSeconds_eq_ofSteps, value, hk]
    rw [hvalue, Nat.cast_mul, ← mul_one_div (2 * (k : ℚ)), ← hhalf]
    generalize (stepsPerOne : ℚ) = one
    ring
  · have h := abs_ofSteps_sub_le Nat.one_pos (parts_value_eq (d := d) (by omega))
    rwa [Nat.div_one, hhalf, ← toSeconds_eq_ofSteps] at h

variable {j k : Nat}

/-- The encoded duration is the nearest number of its grid, since no duration is a middle of two. -/
theorem OnGrid.abs_sub_lt (h : OnGrid d j k) : |d.exact - d.toSeconds.value| < 1 / 2 ^ j := by
  have hge := h.ge
  have hnear := abs_le.mp h.near
  have hfraction := abs_le.mp d.abs_fraction_sub_le
  have hmiddle (m : Int) (hm : m % 2 = 1) : (1 : ℚ) / 2 ^ 54 < |d.exact - m / 2 ^ j| := by
    have h := lt_abs_sub_midpoint (n := d.nanos) hm (by omega) h.le
    rwa [Int.cast_natCast] at h
  have hsplit : (2 : ℚ) * k / 2 ^ j = (2 * k + 1) / 2 ^ j - 1 / 2 ^ j := by ring
  have hsplit' : (2 : ℚ) * k / 2 ^ j = (2 * k - 1) / 2 ^ j + 1 / 2 ^ j := by ring
  rw [d.exact_eq] at hmiddle ⊢
  rw [abs_lt]
  constructor
  · by_contra! hbelow
    have hfar := hmiddle (2 * k - 1) (by omega)
    push_cast at hfar
    rw [abs_of_nonpos (by rw [h.value_eq, hsplit'] at hbelow; linarith)] at hfar
    rw [h.value_eq, hsplit'] at hbelow hnear
    linarith
  · by_contra! habove
    have hfar := hmiddle (2 * k + 1) (by omega)
    push_cast at hfar
    rw [abs_of_nonneg (by rw [h.value_eq, hsplit] at habove; linarith)] at hfar
    rw [h.value_eq, hsplit] at habove hnear
    linarith

/-- The power of two at or below the parts of a duration is not above the duration. -/
theorem OnGrid.le_of_steps_eq (h : OnGrid d j k)
    (hpower : d.toSeconds.steps = 2 ^ d.partSteps.log2) (hsmall : d.seconds < 2 ^ 53) :
    d.toSeconds.value ≤ d.exact := by
  have hone := cast_stepsPerOne_pos
  have hfraction := abs_le.mp d.abs_fraction_sub_le
  have hpart := d.cast_subsecond_le
  have hpart' := d.cast_subsecond_nonneg
  have hlarge := h.large
  have hlog := h.log_ge
  obtain ⟨e, he⟩ : ∃ e, e = 1074 := ⟨_, rfl⟩
  obtain ⟨c, hc⟩ : ∃ c, d.partSteps.log2 = c + e := ⟨d.partSteps.log2 - e, by omega⟩
  have hwhole : d.toSeconds.value = (2 ^ c : Nat) := by
    rw [value, hpower, hc, Nat.pow_add, ← stepsPerOne_eq he, Nat.cast_mul,
      mul_div_cancel_right₀ _ hone.ne']
  have hbelow : d.toSeconds.value ≤ d.seconds + d.fraction.value := by
    rw [value, div_le_iff₀ hone, ← cast_partSteps hsmall, hpower]
    refine Nat.cast_le.mpr (Nat.log2_self_le ?_)
    rintro hzero
    rw [hzero] at hlarge
    exact absurd hlarge (by decide)
  have hlt : 2 ^ c < d.seconds + 1 := by
    have h : ((2 ^ c : Nat) : ℚ) < (d.seconds + 1 : Nat) := by
      rw [← hwhole]
      push_cast
      linarith
    exact_mod_cast h
  have hle : ((2 ^ c : Nat) : ℚ) ≤ d.seconds := by exact_mod_cast Nat.le_of_lt_succ hlt
  rw [hwhole, exact_eq]
  linarith

theorem OnGrid.holds (h : OnGrid d j k) (hsmall : d.seconds < 2 ^ 53) :
    d.toSeconds.holds (-9) d.nanos := by
  have hexact : (d.nanos : ℚ) * 10 ^ (-9 : Int) = d.exact := by
    rw [exact]
    norm_num
    ring
  have hnear := abs_lt.mp h.abs_sub_lt
  obtain ⟨habove, hbelow⟩ := spacing_le_of_ofSteps_one h.large
  rw [← toSeconds_eq_ofSteps] at habove hbelow
  have hone := cast_stepsPerOne_pos
  have hhalf {gap : Nat} (hgap : spacing d.partSteps ≤ gap) :
      (1 : ℚ) / 2 ^ j ≤ gap / 2 / stepsPerOne := by
    have hgap' : (spacing d.partSteps : ℚ) ≤ gap := by exact_mod_cast hgap
    rw [← h.half_eq]
    exact div_le_div_of_nonneg_right (by linarith) hone.le
  rcases le_or_gt d.exact d.toSeconds.value with hle | hlt
  · apply holds_of_le (by rwa [hexact])
    rw [hexact]
    rcases hbelow with hgap | hpower
    · refine lt_of_lt_of_le ?_ (hhalf hgap)
      linarith
    · have hsame := h.le_of_steps_eq hpower hsmall
      refine lt_of_le_of_lt (sub_nonpos.mpr hsame) (lt_of_lt_of_le ?_ (le_halfSpacingBelow _))
      have hpos : 0 < d.toSeconds.value := by
        rw [value, hpower]
        exact div_pos (by exact_mod_cast Nat.two_pow_pos _) hone
      positivity
  · apply holds_of_lt (by rwa [hexact])
    rw [hexact]
    exact lt_of_lt_of_le (by linarith) (hhalf habove)

/-- Below 2^23 seconds a duration is less than that by more than half a spacing. -/
theorem OnGrid.value_lt (h : OnGrid d j k) (hhigh : d.seconds < 2 ^ 23) :
    d.toSeconds.value < 2 ^ 23 := by
  have hhigh' : (d.seconds : ℚ) + 1 ≤ 2 ^ 23 := by exact_mod_cast hhigh
  have hpart := d.cast_subsecond_le
  have hunit : (1 : ℚ) / 2 ^ j ≤ 1 / 2 ^ 31 :=
    one_div_le_one_div_of_le (by norm_num) (pow_le_pow_right₀ (by norm_num) h.ge)
  have hnear := abs_lt.mp h.abs_sub_lt
  have hexact := d.exact_eq
  linarith

/-- From 2^20 up to 2^23 seconds the shortest decimal states a duration exactly. -/
theorem value_shortest_toSeconds (hlow : 2 ^ 20 ≤ d.seconds) (hhigh : d.seconds < 2 ^ 23) :
    d.toSeconds.shortest.value = d.exact ∧ -9 ≤ d.toSeconds.shortest.exponent := by
  have hlow' : (2 : ℚ) ^ 20 ≤ d.seconds := by exact_mod_cast hlow
  have hpart := d.cast_subsecond_nonneg
  have hexact := d.exact_eq
  have hnear := abs_le.mp d.abs_toSeconds_sub_le
  rw [roundoff] at hnear
  obtain ⟨j, k, hgrid⟩ := exists_onGrid hlow hhigh
  have hbelow := hgrid.value_lt hhigh
  have hleast : leastValue ≤ d.toSeconds.value := by
    have := leastValue_le
    linarith
  have hmagnitude : d.toSeconds.magnitude = 6 := by
    refine magnitude_eq ?_ ?_ hleast
    · norm_num
      linarith
    · norm_num
      linarith
  have hhalf : 2 * d.toSeconds.halfSpacing < (10 : ℚ) ^ (-9 : Int) := by
    have hsteps : d.toSeconds.steps < 2 ^ 23 * stepsPerOne :=
      steps_lt_of_value_lt (by exact_mod_cast hbelow)
    have h : d.toSeconds.halfSpacing ≤ 2 ^ 23 / 2 ^ 54 := half_spacing_le_of_lt hsteps
    norm_num at h ⊢
    linarith
  have hnanos : 0 < d.nanos := by
    rw [Nat.pos_iff_ne_zero]
    intro hzero
    rw [exact, hzero, Nat.cast_zero, zero_div] at hexact
    linarith
  have h := value_shortest_eq hleast (k := -9) (n := 15) (by rw [hmagnitude]; norm_num) hnanos
    (hgrid.holds (by omega)) hhalf
  refine ⟨h.1.trans ?_, h.2⟩
  rw [exact]
  norm_num
  ring

theorem decoded_from (h : Decodes d.toSeconds y) (hlow : 2 ^ 20 ≤ d.seconds)
    (hhigh : d.seconds < 2 ^ 23) : |y.value - d.exact| < 1 / 2 / 10 ^ 9 := by
  obtain ⟨hvalue, hexponent⟩ := value_shortest_toSeconds hlow hhigh
  have hnear := (abs_le.mp d.abs_toSeconds_sub_le)
  have hlow' : (2 : ℚ) ^ 20 ≤ d.seconds := by exact_mod_cast hlow
  have hhigh' : (d.seconds : ℚ) + 1 ≤ 2 ^ 23 := by exact_mod_cast hhigh
  have hpart := d.cast_subsecond_nonneg
  have hpart' := d.cast_subsecond_le
  have hparts := d.exact_eq
  have hleast := leastValue_le
  rw [roundoff] at hnear
  have hexponent' := exponent_shortest_le (x := d.toSeconds) (e := 7) (by linarith)
    (by norm_num; linarith)
  obtain ⟨w, -, hy, -, hw⟩ := h.decoded
  have hsame := h.value_eq
  have hscale := h.scale_eq
  generalize (Json.Number.ofBinary64 d.toSeconds).mantissa = m at *
  generalize (Json.Number.ofBinary64 d.toSeconds).scale = p at *
  have hm : m < 2 ^ 53 := by
    have hunit : (10 : ℚ) ^ (-9 : Int) ≤ 10 ^ p := zpow_le_zpow_right₀ (by norm_num) (by omega)
    have hscaled : (m : ℚ) * 10 ^ (-9 : Int) ≤ 2 ^ 23 := by
      refine (mul_le_mul_of_nonneg_left hunit (Nat.cast_nonneg m)).trans ?_
      rw [hsame, hvalue]
      linarith
    have hten : (10 : ℚ) ^ (-9 : Int) = 1 / 10 ^ 9 := by norm_num
    rw [hten] at hscaled
    by_contra! hge
    have hge' : (2 : ℚ) ^ 53 ≤ m := by exact_mod_cast hge
    linarith
  rw [(hw (by omega)).2 hm, hsame, hvalue] at hy
  refine (hy 23 (by linarith)).trans_lt ?_
  norm_num

/-! ## Durations as JSON -/

theorem ofJson?_toJson_of_decodes (h : Decodes d.toSeconds y) :
    ofJson? d.toJson = ofSeconds? y := by
  have hnegative : (Json.Number.ofBinary64 d.toSeconds).negative = false := negative_ofDecimal _
  rw [toJson, ofJson?, h.toBinary64?_eq, Option.bind_some, hnegative]
  exact if_neg (by simp)

/-- A duration below 2^23 seconds is read back as it was. -/
theorem ofJson?_toJson_of_lt (h : d.seconds < 2 ^ 23) : ofJson? d.toJson = some d := by
  have hhigh : (d.seconds : ℚ) + 1 ≤ 2 ^ 23 := by exact_mod_cast h
  have hpart := d.cast_subsecond_le
  have hexact := d.exact_eq
  obtain ⟨y, hy⟩ := exists_decodes (d := d) (by linarith)
  rw [ofJson?_toJson_of_decodes hy]
  refine ofSeconds?_eq_some ?_
  rcases d.seconds.eq_zero_or_pos with hzero | hpos
  · apply decoded_below_one hy
    rw [exact_eq, hzero, Nat.cast_zero]
    linarith
  · rcases Nat.lt_or_ge d.seconds (2 ^ 20) with hless | hlow
    · exact decoded_below hy hpos hless
    · exact decoded_from hy hlow h

/-- The longest duration of a test that is recorded, in nanoseconds: thirty days. -/
def maxRecorded : Nat := 30 * 86400 * nanosPerSecond

theorem exact_le_of_nanos_le (h : d.nanos ≤ maxRecorded) : d.exact ≤ 2592000 := by
  have hnanos : (d.nanos : ℚ) ≤ (30 * 86400 * 10 ^ 9 : Nat) := by exact_mod_cast h
  push_cast at hnanos
  rw [exact]
  linarith

/-- A duration of up to thirty days is read back as it was. -/
theorem ofJson?_toJson (h : d.nanos ≤ maxRecorded) : ofJson? d.toJson = some d := by
  apply ofJson?_toJson_of_lt
  rw [seconds, Nat.div_lt_iff_lt_mul (by decide)]
  exact h.trans_lt (by decide)

/-- A duration that is not too near to the longest one is read back as some duration. -/
theorem exists_ofJson?_toJson (h : d.exact ≤ 2 ^ 64 - 2 ^ 20) :
    ∃ d', ofJson? d.toJson = some d' := by
  obtain ⟨y, hy⟩ := exists_decodes (d := d) (by linarith)
  have hnear := (abs_le.mp (abs_decoded_sub_le hy)).2
  rw [roundoff] at hnear
  have hlimit : y.ltNat (2 ^ 64) := by
    refine decide_eq_true (steps_lt_of_value_lt ?_)
    push_cast
    linarith
  rw [ofJson?_toJson_of_decodes hy, ofSeconds?, if_pos hlimit]
  exact ⟨_, rfl⟩

end Duration

end SuiteSplit

import SuiteSplit.Proofs.BinaryGrid
import SuiteSplit.Proofs.Seconds

/-!
Durations as binary64 seconds and back.

Below 2^23 seconds a duration comes back as it was. From there on numbers are further apart than
nanoseconds, so it may come back as another one. The number that it was encoded as stays the same all the
same: it is a number of the grid, and the nearest nanosecond is less than half a spacing away. Encoding
keeps the order.
-/

namespace SuiteSplit

open Binary64

/-- From a power of two on, half a spacing in values is at least this part of the power. -/
theorem Binary64.le_half_spacing_of_ge {n e : Nat} (h : 2 ^ e * stepsPerOne ≤ n) :
    2 ^ e / 2 ^ 53 ≤ (spacing n : ℚ) / 2 / stepsPerOne := by
  obtain ⟨j, hj⟩ : ∃ j, j = 1074 := ⟨_, rfl⟩
  rw [stepsPerOne_eq hj, ← Nat.pow_add] at h
  have hn : n ≠ 0 := (lt_of_lt_of_le (Nat.two_pow_pos _) h).ne'
  have hlog : e + j ≤ n.log2 := (Nat.le_log2 hn).mpr h
  have hspacing : 2 ^ e * stepsPerOne ≤ spacing n * 2 ^ 52 := by
    rw [stepsPerOne_eq hj, ← Nat.pow_add, spacing, ← Nat.pow_add]
    exact Nat.pow_le_pow_right (by decide) (by omega)
  have hspacing' : (2 : ℚ) ^ e * stepsPerOne ≤ spacing n * 2 ^ 52 := by exact_mod_cast hspacing
  rw [le_div_iff₀ cast_stepsPerOne_pos]
  linarith

theorem Binary64.mul_stepsPerOne_le_iff {x : Binary64} {n : Nat} :
    n * stepsPerOne ≤ x.steps ↔ (n : ℚ) ≤ x.value := by
  rw [value, le_div_iff₀ cast_stepsPerOne_pos, ← Nat.cast_mul, Nat.cast_le]

namespace Duration

variable {d : Duration} {x : Binary64} {e n : Nat}

/-- Below a power of two an encoded duration is off by half of the spacing there, and by the rounding of
the fraction. -/
theorem abs_toSeconds_sub_le_of_lt (he : e ≤ 53) (h : d.seconds < 2 ^ e) :
    |d.toSeconds.value - d.exact| ≤ 2 ^ e / 2 ^ 54 + 1 / 2 ^ 54 := by
  have hsmall : d.seconds < 2 ^ 53 := h.trans_le (Nat.pow_le_pow_right (by decide) he)
  have hwhole : (d.seconds : ℚ) + 1 ≤ 2 ^ e := by exact_mod_cast h
  have hpart := d.cast_subsecond_le
  have hfraction := abs_le.mp d.abs_fraction_sub_le
  have hsum := abs_ofSteps_sub_le_of_lt (e := e) Nat.one_pos (parts_value_eq hsmall) (by linarith)
  obtain ⟨hlow, hhigh⟩ := abs_le.mp hsum
  rw [toSeconds_eq_ofSteps, exact_eq, abs_le]
  constructor <;> linarith

/-- Below 2^23 seconds all errors together are less than half a nanosecond. -/
theorem ofSeconds?_toSeconds_of_lt (h : d.seconds < 2 ^ 23) : ofSeconds? d.toSeconds = some d :=
  ofSeconds?_eq_some ((abs_toSeconds_sub_le_of_lt (by decide) h).trans_lt (by norm_num))

/-! ## From 2^23 seconds on -/

theorem isOnGrid_toSeconds (d : Duration) : IsOnGrid d.toSeconds.steps :=
  isOnGrid_ofSteps _ Nat.one_pos

/-- A whole number of seconds is encoded as the nearest number. -/
theorem toSeconds_of_subsecond_eq_zero (h : d.subsecond = 0) :
    d.toSeconds = ofSteps (Binary64.ofNat d.seconds).steps 1 := by
  have hzero : d.fraction.steps = 0 := by
    have hrounded := d.isRounded_fraction
    rw [h, Nat.cast_zero, zero_div, IsRounded, sub_zero, mul_zero] at hrounded
    exact value_eq_zero_iff.mp (abs_nonpos_iff.mp hrounded)
  rw [toSeconds_eq_ofSteps, partSteps, hzero, Nat.add_zero]

/-- Whole seconds of the grid are decoded as they are. -/
theorem exists_whole (hgrid : IsOnGrid x.steps) (hwhole : stepsPerOne ∣ x.steps)
    (hlimit : x.ltNat (2 ^ 64)) : ∃ d, ofSeconds? x = some d ∧ d.toSeconds = x := by
  obtain ⟨n, hn⟩ := hwhole
  have hlt : n < 2 ^ 64 := by
    have h := of_decide_eq_true hlimit
    rw [hn, Nat.mul_comm] at h
    exact Nat.lt_of_mul_lt_mul_right h
  have hscaled : x.scaled nanosPerSecond = n * nanosPerSecond := by
    rw [scaled, hn, Nat.mul_assoc, Nat.mul_comm, roundHalfEven_mul _ stepsPerOne_pos]
  have hnanos : (ofNanos (n * nanosPerSecond)).nanos = n * nanosPerSecond := by
    rw [nanos_ofNanos, Nat.min_eq_left]
    refine Nat.le_sub_one_of_lt ?_
    exact Nat.mul_lt_mul_of_pos_right hlt (by decide)
  have hseconds : (ofNanos (n * nanosPerSecond)).seconds = n := by
    rw [seconds, hnanos, Nat.mul_div_cancel _ (by decide)]
  have hsubsecond : (ofNanos (n * nanosPerSecond)).subsecond = 0 := by
    rw [subsecond, hnanos, Nat.mul_mod_left]
  have hencoded : Binary64.ofNat n = x := by
    rw [Binary64.ofNat, nearest, Nat.mul_comm, ← hn, ofSteps_one_of_isOnGrid hgrid]
  refine ⟨ofNanos (n * nanosPerSecond), ?_, ?_⟩
  · rw [ofSeconds?, if_pos hlimit, hscaled]
  · rw [toSeconds_of_subsecond_eq_zero hsubsecond, hseconds, hencoded, ofSteps_one_of_isOnGrid hgrid]

/-- From 2^52 seconds on, and at the powers of two, there are no fractions. -/
theorem lt_of_not_whole (hgrid : IsOnGrid x.steps) (hge : 1 ≤ x.value)
    (hwhole : ¬ stepsPerOne ∣ x.steps) : x.value < 2 ^ 52 ∧ x.steps ≠ 2 ^ x.steps.log2 := by
  obtain ⟨j, hj⟩ : ∃ j, j = 1074 := ⟨_, rfl⟩
  have hone : 2 ^ 0 * stepsPerOne ≤ x.steps := mul_stepsPerOne_le_iff.mpr (by exact_mod_cast hge)
  rw [stepsPerOne_eq hj] at hone hwhole
  have hpos : x.steps ≠ 0 := by
    have := Nat.two_pow_pos j
    omega
  constructor
  · by_contra! hlarge
    have hlog : 52 + j ≤ x.steps.log2 := by
      refine (Nat.le_log2 hpos).mpr ?_
      rw [Nat.pow_add, ← stepsPerOne_eq hj]
      exact mul_stepsPerOne_le_iff.mpr (by exact_mod_cast hlarge)
    refine hwhole (Dvd.dvd.trans ?_ hgrid)
    exact Nat.pow_dvd_pow 2 (by omega)
  · intro hpower
    rw [hpower] at hwhole
    refine hwhole (Nat.pow_dvd_pow 2 ((Nat.le_log2 hpos).mpr ?_))
    omega

/-- Decoding finds the nearest nanosecond. -/
theorem exists_decoded_near (h : x.value < 2 ^ 52) :
    ∃ d, ofSeconds? x = some d ∧ |d.exact - x.value| ≤ 1 / (2 * 10 ^ 9) ∧ d.seconds < 2 ^ 53 := by
  have hlimit : x.ltNat (2 ^ 64) := by
    refine decide_eq_true (steps_lt_of_value_lt ?_)
    push_cast
    linarith
  obtain ⟨hlow, hhigh⟩ := abs_le.mp (abs_scaled_sub_le x nanosPerSecond)
  rw [cast_nanosPerSecond] at hlow hhigh
  obtain ⟨d, hd⟩ : ∃ d, d = ofNanos (x.scaled nanosPerSecond) := ⟨_, rfl⟩
  have hnanos : d.nanos = x.scaled nanosPerSecond := by
    have h : (x.scaled nanosPerSecond : ℚ) ≤ (2 ^ 53 * 10 ^ 9 : Nat) := by
      push_cast
      linarith
    rw [hd, nanos_ofNanos, Nat.min_eq_left]
    exact (Nat.cast_le.mp h).trans (by decide)
  have hexact := d.exact_mul
  rw [hnanos] at hexact
  refine ⟨d, by rw [ofSeconds?, if_pos hlimit, hd], ?_, ?_⟩
  · rw [abs_le]
    constructor <;> linarith
  · have h : (d.seconds : ℚ) < (2 ^ 53 : Nat) := by
      have hsplit := d.exact_eq
      have hpart := d.cast_subsecond_nonneg
      push_cast
      linarith
    exact_mod_cast h

/-- A duration within half a nanosecond of a number of the grid is encoded as that number. -/
theorem toSeconds_eq_of_near (hgrid : IsOnGrid x.steps) (hge : 2 ^ 23 ≤ x.value)
    (hpower : x.steps ≠ 2 ^ x.steps.log2) (hseconds : d.seconds < 2 ^ 53)
    (hnear : |d.exact - x.value| ≤ 1 / (2 * 10 ^ 9)) : d.toSeconds = x := by
  have hone := cast_stepsPerOne_pos
  have hgap : 2 ^ 23 / 2 ^ 53 ≤ (spacing x.steps : ℚ) / 2 / stepsPerOne := by
    apply le_half_spacing_of_ge
    exact mul_stepsPerOne_le_iff.mpr (by exact_mod_cast hge)
  rw [toSeconds_eq_ofSteps]
  apply ofSteps_one_eq_of_near _ hgrid (.inr hpower)
  · have hscale : (d.partSteps : ℚ) - x.steps =
        (d.seconds + d.fraction.value - x.value) * stepsPerOne := by
      rw [sub_mul, ← cast_partSteps hseconds, value, div_mul_cancel₀ _ hone.ne']
    rw [hscale, abs_mul, abs_of_pos hone, ← lt_div_iff₀ hone]
    refine lt_of_lt_of_le ?_ hgap
    have hfraction := abs_le.mp d.abs_fraction_sub_le
    rw [d.exact_eq] at hnear
    have hnear' := abs_le.mp hnear
    rw [abs_lt]
    constructor <;> linarith
  · intro hzero
    rw [value_eq_zero_iff.mpr hzero] at hge
    norm_num at hge

/-- A number of the grid is the encoding of what it is decoded as. -/
theorem exists_decoded_encodes (hgrid : IsOnGrid x.steps) (hge : 2 ^ 23 ≤ x.value)
    (hlimit : x.ltNat (2 ^ 64)) : ∃ d, ofSeconds? x = some d ∧ d.toSeconds = x := by
  by_cases hwhole : stepsPerOne ∣ x.steps
  · exact exists_whole hgrid hwhole hlimit
  · obtain ⟨hlt, hpower⟩ := lt_of_not_whole hgrid (le_trans (by norm_num) hge) hwhole
    obtain ⟨d, hdecode, hnear, hseconds⟩ := exists_decoded_near hlt
    exact ⟨d, hdecode, toSeconds_eq_of_near hgrid hge hpower hseconds hnear⟩

/-! ## Order -/

/-- Whole numbers up to 2^53 are exact. -/
theorem steps_ofNat (h : n ≤ 2 ^ 53) : (Binary64.ofNat n).steps = n * stepsPerOne := by
  have hvalue : (Binary64.ofNat n).value = n := by
    rcases h.lt_or_eq with hless | rfl
    · exact value_ofNat hless
    · simpa using value_ofNat_mul_two_pow (m := 1) (by decide) 53
  rw [value, div_eq_iff cast_stepsPerOne_pos.ne'] at hvalue
  exact_mod_cast hvalue

theorem steps_ofNat_mono {m n : Nat} (h : m ≤ n) :
    (Binary64.ofNat m).steps ≤ (Binary64.ofNat n).steps :=
  steps_ofSteps_mono Nat.one_pos (Nat.mul_le_mul_right _ h)

/-- An encoding is no less than the whole seconds. -/
theorem mul_le_steps_toSeconds (hn : n ≤ 2 ^ 53) (h : n ≤ d.seconds) :
    n * stepsPerOne ≤ d.toSeconds.steps :=
  calc n * stepsPerOne = (Binary64.ofNat n).steps := (steps_ofNat hn).symm
    _ ≤ (Binary64.ofNat d.seconds).steps := steps_ofNat_mono h
    _ = (ofSteps (Binary64.ofNat d.seconds).steps 1).steps :=
      congrArg steps (ofSteps_one_of_isOnGrid (isOnGrid_ofSteps _ Nat.one_pos)).symm
    _ ≤ d.toSeconds.steps := steps_ofSteps_mono Nat.one_pos (Nat.le_add_right _ _)

theorem steps_fraction_lt (d : Duration) : d.fraction.steps < stepsPerOne := by
  have hpart := d.cast_subsecond_le
  have hfraction := abs_le.mp d.abs_fraction_sub_le
  have h := steps_lt_of_value_lt (x := d.fraction) (n := 1) (by push_cast; linarith)
  rwa [Nat.one_mul] at h

/-- From 2^53 seconds on the fraction is lost. -/
theorem toSeconds_of_large (h : 2 ^ 53 ≤ d.seconds) : d.toSeconds = Binary64.ofNat d.seconds := by
  have hlarge : 2 ^ 53 * stepsPerOne ≤ (Binary64.ofNat d.seconds).steps := by
    rw [← steps_ofNat le_rfl]
    exact steps_ofNat_mono h
  have hpos : (Binary64.ofNat d.seconds).steps ≠ 0 :=
    (lt_of_lt_of_le (Nat.mul_pos (by decide) stepsPerOne_pos) hlarge).ne'
  have hgap := le_half_spacing_of_ge hlarge
  have hfraction : (d.fraction.steps : ℚ) < stepsPerOne := by exact_mod_cast d.steps_fraction_lt
  rw [toSeconds_eq_ofSteps, partSteps,
    ofSteps_one_eq_of_near hpos (isOnGrid_ofSteps _ Nat.one_pos) (.inl (Nat.le_add_right _ _))]
  rw [Nat.cast_add, add_sub_cancel_left, abs_of_nonneg (Nat.cast_nonneg _)]
  rw [div_self (by norm_num), one_le_div cast_stepsPerOne_pos] at hgap
  exact hfraction.trans_le hgap

theorem steps_fraction_mono {d d' : Duration} (h : d.subsecond ≤ d'.subsecond) :
    d.fraction.steps ≤ d'.fraction.steps := by
  refine steps_ofSteps_mono ?_ (Nat.mul_le_mul_right _ (steps_ofNat_mono h))
  apply steps_pos
  rw [value_nanosPerSecond]
  norm_num

/-- A longer duration is encoded as no smaller a number. -/
theorem steps_toSeconds_mono {d d' : Duration} (h : d ≤ d') :
    d.toSeconds.steps ≤ d'.toSeconds.steps := by
  have hseconds : d.seconds ≤ d'.seconds := Nat.div_le_div_right h
  rcases Nat.lt_or_ge d.seconds (2 ^ 53) with hless | hlarge
  · refine steps_ofSteps_mono Nat.one_pos (show d.partSteps ≤ d'.partSteps from ?_)
    rcases hseconds.eq_or_lt with hsame | hmore
    · have hsubsecond : d.subsecond ≤ d'.subsecond := by
        have hsplit := Nat.div_add_mod' d.nanos nanosPerSecond
        have hsplit' := Nat.div_add_mod' d'.nanos nanosPerSecond
        have h : d.nanos ≤ d'.nanos := h
        simp only [seconds, subsecond] at *
        rw [hsame] at hsplit
        omega
      rw [partSteps, partSteps, hsame]
      exact Nat.add_le_add_left (steps_fraction_mono hsubsecond) _
    · -- a whole second more is more than any fraction
      calc d.partSteps ≤ d.seconds * stepsPerOne + stepsPerOne := by
            rw [partSteps, steps_ofNat hless.le]
            exact Nat.add_le_add_left d.steps_fraction_lt.le _
        _ = (Binary64.ofNat (d.seconds + 1)).steps := by rw [steps_ofNat hless, Nat.succ_mul]
        _ ≤ (Binary64.ofNat d'.seconds).steps := steps_ofNat_mono hmore
        _ ≤ d'.partSteps := Nat.le_add_right _ _
  · rw [toSeconds_of_large hlarge, toSeconds_of_large (hlarge.trans hseconds)]
    exact steps_ofNat_mono hseconds

/-! ## Both ways -/

/-- Below 2^23 seconds a duration comes back as it was. Whatever comes back of a duration, as long as the
encoding is below 2^64, is encoded as the duration was, so it comes back as itself from then on. -/
theorem seconds_codec_stable (d : Duration) :
    (d.nanos < 2 ^ 23 * nanosPerSecond → ofSeconds? d.toSeconds = some d) ∧
      (d.toSeconds.value < 2 ^ 64 → ∃ d', ofSeconds? d.toSeconds = some d' ∧
        d'.toSeconds = d.toSeconds ∧ ofSeconds? d'.toSeconds = some d') := by
  have hback (h : d.seconds < 2 ^ 23) := ofSeconds?_toSeconds_of_lt h
  refine ⟨fun h => hback ((Nat.div_lt_iff_lt_mul (by decide)).mpr h), fun hlimit => ?_⟩
  rcases Nat.lt_or_ge d.seconds (2 ^ 23) with hless | hlarge
  · exact ⟨d, hback hless, rfl, hback hless⟩
  · have hge : (2 : ℚ) ^ 23 ≤ d.toSeconds.value := by
      exact_mod_cast mul_stepsPerOne_le_iff.mp (mul_le_steps_toSeconds (by decide) hlarge)
    have hlimit' : d.toSeconds.ltNat (2 ^ 64) :=
      decide_eq_true (steps_lt_of_value_lt (by exact_mod_cast hlimit))
    obtain ⟨d', hdecode, hencode⟩ := exists_decoded_encodes d.isOnGrid_toSeconds hge hlimit'
    exact ⟨d', hdecode, hencode, hencode.symm ▸ hdecode⟩

/-- The last duration below 2^23 seconds comes back as it was. One a little above comes back as a
nanosecond more, with the same encoding. -/
theorem seconds_codec_at_limit :
    let last := ofNanos (2 ^ 23 * nanosPerSecond - 1)
    let first := ofNanos (2 ^ 23 * nanosPerSecond + 1)
    let second := ofNanos (2 ^ 23 * nanosPerSecond + 2)
    ofSeconds? last.toSeconds = some last ∧ ofSeconds? first.toSeconds = some second ∧
      second.toSeconds = first.toSeconds ∧ ofSeconds? second.toSeconds = some second := by
  intro last first second
  have hlimit : first.toSeconds.value < 2 ^ 64 := by
    have hbelow : ¬ 2 ^ 64 * stepsPerOne ≤ first.toSeconds.steps := by decide +kernel
    rw [mul_stepsPerOne_le_iff, not_le] at hbelow
    exact_mod_cast hbelow
  have hsecond : ofSeconds? first.toSeconds = some second := by decide +kernel
  obtain ⟨d, hdecode, hencode, hagain⟩ := (seconds_codec_stable first).2 hlimit
  obtain rfl : second = d := Option.some.inj (hsecond.symm.trans hdecode)
  exact ⟨(seconds_codec_stable last).1 (by decide), hdecode, hencode, hagain⟩

end Duration

end SuiteSplit

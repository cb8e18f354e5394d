import SuiteSplit.Json.Number
import SuiteSplit.Proofs.Shortest

/-!
Numbers of a text as binary64 numbers.

A number that is written for a decimal has all of its digits among the leading ones, so it is decoded
from its digits and its power of ten with two roundings, or three where the power is none of the exact
ones.
-/

namespace SuiteSplit

open Binary64

section

variable {a m b t : ℚ}

/-- The error of a product of two rounded factors. -/
theorem abs_mul_sub_le (hm : 0 ≤ m) (ht : 0 ≤ t) (ha : |a - m| ≤ roundoff * m)
    (hb : |b - t| ≤ roundoff * t) : |a * b - m * t| ≤ 3 * roundoff * (m * t) := by
  have hone : |b| ≤ 2 * t := by
    have h := abs_add_le (b - t) t
    rw [sub_add_cancel, abs_of_nonneg ht] at h
    have hu : roundoff * t ≤ t := by
      rw [roundoff]
      linarith
    linarith
  calc |a * b - m * t| = |(a - m) * b + m * (b - t)| := by ring_nf
    _ ≤ |a - m| * |b| + |m| * |b - t| := by
        rw [← abs_mul, ← abs_mul]
        exact abs_add_le _ _
    _ ≤ roundoff * m * (2 * t) + m * (roundoff * t) := by
        rw [abs_of_nonneg hm]
        gcongr
        exact mul_nonneg (by rw [roundoff]; norm_num) hm
    _ = 3 * roundoff * (m * t) := by ring

/-- The error of a quotient of two rounded numbers. -/
theorem abs_div_sub_le (hm : 0 ≤ m) (ht : 0 < t) (ha : |a - m| ≤ roundoff * m)
    (hb : |b - t| ≤ roundoff * t) : |a / b - m / t| ≤ 3 * roundoff * (m / t) := by
  obtain ⟨ha₁, ha₂⟩ := abs_le.mp ha
  obtain ⟨hb₁, hb₂⟩ := abs_le.mp hb
  have hpos : 0 < b := by
    have hu : roundoff * t < t := by
      rw [roundoff]
      linarith
    linarith
  have hquotient : 0 ≤ m / t := by positivity
  have hmt : m = m / t * t := by field_simp
  have hmul : 0 ≤ m / t * t := by positivity
  rw [abs_le]
  constructor
  · rw [neg_le_sub_iff_le_add, ← sub_le_iff_le_add, le_div_iff₀ hpos]
    have hb' : (m / t - 3 * roundoff * (m / t)) * b ≤
        (m / t - 3 * roundoff * (m / t)) * (t + roundoff * t) := by
      apply mul_le_mul_of_nonneg_left (by linarith)
      rw [roundoff]
      linarith
    apply hb'.trans
    have hexpand : (m / t - 3 * roundoff * (m / t)) * (t + roundoff * t) =
        (1 - 2 * roundoff - 3 * roundoff ^ 2) * (m / t * t) := by ring
    rw [hexpand, ← hmt, roundoff]
    rw [roundoff] at ha₁
    linarith
  · rw [sub_le_iff_le_add, div_le_iff₀ hpos]
    have hb' : (3 * roundoff * (m / t) + m / t) * (t - roundoff * t) ≤
        (3 * roundoff * (m / t) + m / t) * b := by
      apply mul_le_mul_of_nonneg_left (by linarith)
      rw [roundoff]
      linarith
    refine le_trans ?_ hb'
    have hexpand : (3 * roundoff * (m / t) + m / t) * (t - roundoff * t) =
        (1 + 2 * roundoff - 3 * roundoff ^ 2) * (m / t * t) := by ring
    rw [hexpand, ← hmt, roundoff]
    rw [roundoff] at ha₂
    linarith

end

namespace Binary64

variable {x : Binary64}

theorem steps_lt_of_value_lt {n : Nat} (h : x.value < n) : x.steps < n * stepsPerOne := by
  rw [value, div_lt_iff₀ cast_stepsPerOne_pos] at h
  exact_mod_cast h

theorem isFinite_of_lt (h : x.value < 10 ^ 60) : x.isFinite := by
  obtain ⟨k, hk⟩ : ∃ k, k = 1024 := ⟨_, rfl⟩
  have hpow : 10 ^ 60 ≤ 2 ^ k := by
    calc 10 ^ 60 ≤ 16 ^ 60 := Nat.pow_le_pow_left (by decide) 60
      _ = 2 ^ (4 * 60) := by rw [Nat.pow_mul]
      _ ≤ 2 ^ k := Nat.pow_le_pow_right (by decide) (by omega)
  have hpow' : (10 : ℚ) ^ 60 ≤ (2 ^ k : Nat) := by exact_mod_cast hpow
  rw [isFinite, ← hk]
  exact decide_eq_true (steps_lt_of_value_lt (h.trans_le hpow'))

end Binary64

namespace Json

/-! ## Leading digits -/

theorem natOfDigits_cons (c : Char) (cs : List Char) :
    natOfDigits (c :: cs) = (c.toNat - '0'.toNat) * 10 ^ cs.length + natOfDigits cs := by
  have h : natOfDigits [c] = c.toNat - '0'.toNat := by
    rw [natOfDigits, List.foldl_cons, List.foldl_nil, Nat.zero_mul, Nat.zero_add]
  rw [← List.singleton_append, natOfDigits_append, h]

/-- A digit that is taken from the front is carried. -/
theorem carry_cons (v : Nat) (c : Char) (cs : List Char) :
    v * 10 ^ (c :: cs).length + natOfDigits (c :: cs) =
      (v * 10 + (c.toNat - '0'.toNat)) * 10 ^ cs.length + natOfDigits cs := by
  rw [natOfDigits_cons, List.length_cons, Nat.pow_succ]
  ring

namespace LeadingDigits

variable {v : Nat} {p : Int} {cs : List Char}

/-- A digit of a value that fits in the end fits. -/
theorem extended?_eq_some {c : Char} (h : v * 10 ^ (c :: cs).length + natOfDigits (c :: cs) < wordLimit) :
    (LeadingDigits.mk v p false).extended? c = some (v * 10 + (c.toNat - '0'.toNat)) := by
  have hfits : v * 10 + (c.toNat - '0'.toNat) < wordLimit := by
    refine Nat.lt_of_le_of_lt ?_ h
    rw [carry_cons]
    exact (Nat.le_mul_of_pos_right _ (Nat.pow_pos (by decide))).trans (Nat.le_add_right _ _)
  rw [extended?]
  exact if_neg (by simpa using hfits)

theorem foldl_addWhole (h : v * 10 ^ cs.length + natOfDigits cs < wordLimit) :
    cs.foldl addWhole ⟨v, p, false⟩ = ⟨v * 10 ^ cs.length + natOfDigits cs, p, false⟩ := by
  induction cs generalizing v with
  | nil => simp
  | cons c cs ih =>
    rw [List.foldl_cons, addWhole, extended?_eq_some h]
    rw [carry_cons] at h ⊢
    exact ih h

theorem foldl_addFraction (h : v * 10 ^ cs.length + natOfDigits cs < wordLimit) :
    cs.foldl addFraction ⟨v, p, false⟩ =
      ⟨v * 10 ^ cs.length + natOfDigits cs, p - cs.length, false⟩ := by
  induction cs generalizing v p with
  | nil => simp
  | cons c cs ih =>
    rw [List.foldl_cons, addFraction, extended?_eq_some h]
    rw [carry_cons] at h ⊢
    dsimp only
    rw [ih h, List.length_cons]
    congr 1
    push_cast
    ring

end LeadingDigits

namespace Number

/-- All digits of a number as one whole number. -/
def mantissa (n : Number) : Nat := natOfDigits (n.whole ++ n.fraction)

/-- The power of ten of the last digit. -/
def scale (n : Number) : Int := n.power.getD 0 - n.fraction.length

variable {n : Number} {d : Decimal}

theorem leading_eq (h : n.mantissa < wordLimit) :
    n.leading = ⟨n.mantissa, -(n.fraction.length : Int), false⟩ := by
  have hsplit : n.mantissa = natOfDigits n.whole * 10 ^ n.fraction.length +
      natOfDigits n.fraction := natOfDigits_append _ _
  have hwhole : natOfDigits n.whole < wordLimit := by
    refine Nat.lt_of_le_of_lt ?_ h
    have := Nat.le_mul_of_pos_right (natOfDigits n.whole)
      (Nat.pow_pos (by decide) : 0 < 10 ^ n.fraction.length)
    omega
  have hfold : n.whole.foldl LeadingDigits.addWhole ⟨0, 0, false⟩ =
      ⟨natOfDigits n.whole, 0, false⟩ := by
    rw [LeadingDigits.foldl_addWhole (by simpa using hwhole), Nat.zero_mul, Nat.zero_add]
  rw [leading, hfold]
  dsimp only
  rw [LeadingDigits.foldl_addFraction (by rwa [← hsplit]), ← hsplit, zero_sub]

/-- A number with few enough digits is decoded from its digits and its power of ten. -/
theorem toBinary64?_eq (h : n.mantissa < wordLimit)
    (hpower : (n.power.getD 0).natAbs ≤ maxStatedPower) :
    n.toBinary64? = shiftPower? (.ofNat n.mantissa) n.scale := by
  have hscale : -(n.fraction.length : Int) + n.power.getD 0 = n.scale := by
    rw [scale]
    ring
  rw [toBinary64?, leading_eq h]
  dsimp only
  rw [if_neg (by omega), if_neg (by omega), hscale]

/-! ## Decimals as numbers -/

/-- A decimal is a whole number that is written in plain digits. -/
def IsPlainWhole (d : Decimal) : Prop := 0 ≤ d.exponent ∧ d.magnitude ≤ 15

theorem ofDecimal_of_isPlainWhole (h : d.digits ≠ 0) (hd : IsPlainWhole d) :
    (ofDecimal d).mantissa = d.digits * 10 ^ d.exponent.toNat * 10 ∧ (ofDecimal d).scale = -1 := by
  obtain ⟨hexponent, hmagnitude⟩ := hd
  have hlength := Nat.length_toDigits_pos (b := 10) (n := d.digits)
  have hsum : d.magnitude = d.exponent + (Nat.toDigits 10 d.digits).length - 1 := rfl
  have hnumber : ofDecimal d = ⟨false, Nat.toDigits 10 d.digits ++
      List.replicate d.exponent.toNat '0', ['0'], none⟩ := by
    unfold ofDecimal
    dsimp only
    rw [if_neg h, if_neg (by omega), if_pos hexponent]
  rw [hnumber, mantissa, scale]
  dsimp only
  rw [natOfDigits_append, natOfDigits_append, natOfDigits_toDigits, natOfDigits_replicate,
    List.length_replicate]
  exact ⟨rfl, rfl⟩

theorem ofDecimal_of_not_isPlainWhole (h : d.digits ≠ 0) (hd : ¬ IsPlainWhole d) :
    (ofDecimal d).mantissa = d.digits ∧ (ofDecimal d).scale = d.exponent := by
  have hlength := Nat.length_toDigits_pos (b := 10) (n := d.digits)
  have hsum : d.magnitude = d.exponent + (Nat.toDigits 10 d.digits).length - 1 := rfl
  have hparts (n : Number) (hdigits : natOfDigits (n.whole ++ n.fraction) = d.digits)
      (hpower : n.power.getD 0 - n.fraction.length = d.exponent) :
      n.mantissa = d.digits ∧ n.scale = d.exponent := ⟨hdigits, hpower⟩
  unfold ofDecimal
  dsimp only
  rw [if_neg h]
  split_ifs with hpower hplain hpoint
  · refine hparts _ ?_ ?_
    · dsimp only
      rw [List.take_append_drop, natOfDigits_toDigits]
    · dsimp only
      rw [List.length_drop, Option.getD_some]
      omega
  · exact absurd ⟨hplain, by omega⟩ hd
  · refine hparts _ ?_ ?_
    · dsimp only
      rw [List.take_append_drop, natOfDigits_toDigits]
    · dsimp only
      rw [List.length_drop, Option.getD_none]
      omega
  · refine hparts _ ?_ ?_
    · change natOfDigits (List.replicate 1 '0' ++ (List.replicate _ '0' ++ _)) = d.digits
      rw [natOfDigits_zeros_append, natOfDigits_zeros_append, natOfDigits_toDigits]
    · dsimp only
      rw [List.length_append, List.length_replicate, Option.getD_none]
      push_cast
      omega

/-- The value of the number of a decimal is that of the decimal. -/
theorem value_ofDecimal (h : d.digits ≠ 0) :
    ((ofDecimal d).mantissa : ℚ) * 10 ^ (ofDecimal d).scale = d.value := by
  by_cases hd : IsPlainWhole d
  · obtain ⟨hmantissa, hscale⟩ := ofDecimal_of_isPlainWhole h hd
    have hexponent : ((d.exponent.toNat : Nat) : Int) = d.exponent := Int.toNat_of_nonneg hd.1
    rw [hmantissa, hscale, Decimal.value]
    nth_rewrite 2 [← hexponent]
    rw [zpow_natCast]
    push_cast
    norm_num
    ring
  · obtain ⟨hmantissa, hscale⟩ := ofDecimal_of_not_isPlainWhole h hd
    rw [hmantissa, hscale, Decimal.value]

/-- The digits of a whole number that is written in plain digits, with the zero behind the point. -/
theorem mantissa_lt_of_isPlainWhole (h : d.digits ≠ 0) (hd : IsPlainWhole d) :
    (ofDecimal d).mantissa < 10 ^ 17 := by
  have hexponent : ((d.exponent.toNat : Nat) : Int) = d.exponent := Int.toNat_of_nonneg hd.1
  have hsum : d.magnitude = d.exponent + (Nat.toDigits 10 d.digits).length - 1 := rfl
  have hmagnitude := hd.2
  have hlt := lt_ten_pow_length_toDigits d.digits
  rw [(ofDecimal_of_isPlainWhole h hd).1]
  have hmul : d.digits * 10 ^ d.exponent.toNat < 10 ^ 16 := by
    calc d.digits * 10 ^ d.exponent.toNat
        < 10 ^ (Nat.toDigits 10 d.digits).length * 10 ^ d.exponent.toNat :=
          Nat.mul_lt_mul_of_pos_right hlt (Nat.pow_pos (by decide))
      _ = 10 ^ ((Nat.toDigits 10 d.digits).length + d.exponent.toNat) := (Nat.pow_add _ _ _).symm
      _ ≤ 10 ^ 16 := Nat.pow_le_pow_right (by decide) (by omega)
  omega

theorem mantissa_ofDecimal_lt (h : d.digits ≠ 0) (hd : d.digits ≤ 10 ^ 17) :
    (ofDecimal d).mantissa < wordLimit := by
  have hword : 10 ^ 17 < wordLimit := by decide
  by_cases hplain : IsPlainWhole d
  · exact (mantissa_lt_of_isPlainWhole h hplain).trans hword
  · rw [(ofDecimal_of_not_isPlainWhole h hplain).1]
    omega

/-! ## Decoding -/

/-- The distance of a decoded number from its decimal. It is one rounding of what the digits and the
power come to, which is off by half a spacing at most. That is off by three roundings at most, by one if
the power is exact, and not at all if the digits are, too. -/
def IsDecoded (y : Binary64) (m : Nat) (p : Int) : Prop :=
  ∃ w : ℚ, y.IsRounded w ∧ (∀ e : Nat, w < 2 ^ e → |y.value - w| ≤ 2 ^ e / 2 ^ 54) ∧
    |w - m * 10 ^ p| ≤ 3 * roundoff * (m * 10 ^ p) ∧
    (p.natAbs ≤ 22 → |w - m * 10 ^ p| ≤ roundoff * (m * 10 ^ p) ∧ (m < 2 ^ 53 → w = m * 10 ^ p))

variable {m : Nat} {p : Int}

theorem ofNat_ten_pow_pos (j : Nat) : 0 < (Binary64.ofNat (10 ^ j)).value := by
  have hpos := cast_ten_pow_pos j
  have h := (isRounded_ofNat (10 ^ j)).ge
  have hu : roundoff * (10 ^ j : Nat) < (10 ^ j : Nat) := by
    rw [roundoff]
    linarith
  linarith

/-- What is near a number that is not too small is not too small for rounding. -/
theorem normal_of_near {v w : ℚ} (hv : v = 0 ∨ leastValue ≤ v)
    (hw : |w - v| ≤ 3 * roundoff * v) : w = 0 ∨ minNormal ≤ w := by
  rcases hv with rfl | hv
  · left
    rw [mul_zero, sub_zero] at hw
    exact abs_nonpos_iff.mp hw
  · right
    have h := (abs_le.mp hw).1
    have hleast := minNormal_le_leastValue
    have hpos := leastValue_pos
    rw [roundoff] at h
    linarith

theorem exists_quotient (j : Nat) (hv : (m : ℚ) / 10 ^ j = 0 ∨ leastValue ≤ (m : ℚ) / 10 ^ j) :
    IsDecoded (.ofNat m / .ofNat (10 ^ j)) m (-j) := by
  have hdigits := isRounded_ofNat m
  have hpower := isRounded_ofNat (10 ^ j)
  have hten := cast_ten_pow_pos j
  have hcast : ((10 ^ j : Nat) : ℚ) = 10 ^ j := by push_cast; rfl
  have hnear := abs_div_sub_le (Nat.cast_nonneg m) hten hdigits hpower
  have hscale : (m : ℚ) * 10 ^ (-(j : Int)) = m / (10 ^ j : Nat) := by
    rw [zpow_neg, zpow_natCast, hcast, div_eq_mul_inv]
  rw [← hcast] at hv
  refine ⟨_, isRounded_div (ofNat_ten_pow_pos j) (normal_of_near hv hnear),
    fun e => abs_div_sub_le_of_lt (ofNat_ten_pow_pos j), ?_, fun hj => ?_⟩
  · rw [hscale]
    exact hnear
  · rw [value_ofNat_ten_pow (by omega), hscale]
    constructor
    · rw [← sub_div, abs_div, abs_of_pos hten, ← mul_div_assoc]
      exact div_le_div_of_nonneg_right hdigits hten.le
    · intro hm
      rw [value_ofNat hm]

theorem exists_product (j : Nat) (hv : (m : ℚ) * 10 ^ j = 0 ∨ leastValue ≤ (m : ℚ) * 10 ^ j) :
    IsDecoded (.ofNat m * .ofNat (10 ^ j)) m j := by
  have hdigits := isRounded_ofNat m
  have hpower := isRounded_ofNat (10 ^ j)
  have hten := cast_ten_pow_pos j
  have hcast : ((10 ^ j : Nat) : ℚ) = 10 ^ j := by push_cast; rfl
  have hnear := abs_mul_sub_le (Nat.cast_nonneg m) hten.le hdigits hpower
  have hscale : (m : ℚ) * 10 ^ (j : Int) = m * (10 ^ j : Nat) := by rw [zpow_natCast, hcast]
  rw [← hcast] at hv
  refine ⟨_, isRounded_mul (normal_of_near hv hnear), fun e => abs_mul_sub_le_of_lt, ?_,
    fun hj => ?_⟩
  · rw [hscale]
    exact hnear
  · rw [value_ofNat_ten_pow (by omega), hscale]
    constructor
    · rw [← sub_mul, abs_mul, abs_of_pos hten, ← mul_assoc]
      exact mul_le_mul_of_nonneg_right hdigits hten.le
    · intro hm
      rw [value_ofNat hm]

/-- All errors of a decoded number together. -/
theorem IsDecoded.abs_sub_le {y : Binary64} (h : IsDecoded y m p) :
    |y.value - m * 10 ^ p| ≤ 5 * roundoff * (m * 10 ^ p) := by
  obtain ⟨w, hy, -, hw, -⟩ := h
  have hv : (0 : ℚ) ≤ m * 10 ^ p := by positivity
  obtain ⟨hw₁, hw₂⟩ := abs_le.mp hw
  obtain ⟨hy₁, hy₂⟩ := abs_le.mp hy
  rw [roundoff] at *
  rw [abs_le]
  constructor <;> linarith

theorem exists_shiftPower? (hp : p.natAbs ≤ maxPower)
    (hv : (m : ℚ) * 10 ^ p = 0 ∨ leastValue ≤ (m : ℚ) * 10 ^ p) (hlarge : (m : ℚ) * 10 ^ p ≤ 10 ^ 50) :
    ∃ y, shiftPower? (.ofNat m) p = some y ∧ IsDecoded y m p := by
  rw [shiftPower?, if_neg (by omega)]
  by_cases hneg : p < 0
  · obtain ⟨j, rfl⟩ : ∃ j : Nat, p = -j := ⟨p.natAbs, by omega⟩
    rw [if_pos hneg, neg_neg, Int.toNat_natCast]
    refine ⟨_, rfl, exists_quotient j ?_⟩
    rwa [zpow_neg, zpow_natCast, ← div_eq_mul_inv] at hv
  · obtain ⟨j, rfl⟩ : ∃ j : Nat, p = j := ⟨p.natAbs, by omega⟩
    rw [if_neg hneg, if_pos (by omega), Int.toNat_natCast]
    rw [zpow_natCast] at hv
    have hdecoded := exists_product j hv
    have hfinite : (Binary64.ofNat m * .ofNat (10 ^ j)).isFinite := by
      apply isFinite_of_lt
      have h := (abs_le.mp hdecoded.abs_sub_le).2
      rw [roundoff] at h
      linarith
    exact ⟨_, by rw [if_pos hfinite], hdecoded⟩

/-! ## Numbers of binary64 numbers -/

variable {x y : Binary64}

theorem negative_ofDecimal (d : Decimal) : (ofDecimal d).negative = false := by
  unfold ofDecimal
  dsimp only
  split_ifs <;> rfl

theorem power_ofDecimal (d : Decimal) :
    (ofDecimal d).power.getD 0 = 0 ∨ (ofDecimal d).power.getD 0 = d.magnitude := by
  unfold ofDecimal
  dsimp only
  split_ifs <;> simp

/-- A binary64 number is decoded from its own number as another one. -/
structure Decodes (x y : Binary64) : Prop where
  toBinary64?_eq : (ofBinary64 x).toBinary64? = some y
  decoded : IsDecoded y (ofBinary64 x).mantissa (ofBinary64 x).scale
  value_eq : ((ofBinary64 x).mantissa : ℚ) * 10 ^ (ofBinary64 x).scale = x.shortest.value
  near : |x.shortest.value - x.value| ≤ roundoff * x.value
  scale_eq : (ofBinary64 x).scale = -1 ∨ (ofBinary64 x).scale = x.shortest.exponent

theorem exists_decodes_zero (h : x.value = 0) : ∃ y, Decodes x y := by
  have hshortest : x.shortest = ⟨0, 0⟩ := by rw [shortest, if_pos (value_eq_zero_iff.mp h)]
  have hvalue : x.shortest.value = 0 := by
    rw [hshortest]
    simp [Decimal.value]
  have hnumber : ofBinary64 x = ⟨false, ['0'], ['0'], none⟩ := by
    rw [ofBinary64, hshortest]
    rfl
  have hmantissa : (ofBinary64 x).mantissa = 0 := by
    rw [hnumber]
    rfl
  have hscale : (ofBinary64 x).scale = -1 := by
    rw [hnumber]
    rfl
  obtain ⟨y, hy, hdecoded⟩ := exists_shiftPower? (m := 0) (p := -1) (by decide) (by simp) (by simp)
  refine ⟨y, ?_, ?_, ?_, ?_, .inl hscale⟩
  · rw [Number.toBinary64?_eq (by rw [hmantissa]; decide) (by rw [hnumber]; decide), hmantissa,
      hscale]
    exact hy
  · rwa [hmantissa, hscale]
  · rw [hmantissa, hvalue, Nat.cast_zero, zero_mul]
  · rw [hvalue, h]
    simp

theorem exists_decodes (h : x.value = 0 ∨ 2 * leastValue ≤ x.value) (hlarge : x.value ≤ 10 ^ 30) :
    ∃ y, Decodes x y := by
  rcases h with h | htwice
  · exact exists_decodes_zero h
  · have hleastPos := leastValue_pos
    have h : leastValue ≤ x.value := by linarith
    obtain ⟨hpos, hdigits, -⟩ := shortest_bounds h
    have hleast : leastValue = (10 : ℚ) ^ (-100 : Int) := by
      rw [leastValue]
      norm_num
    have hlow := exponent_shortest_ge h (hleast ▸ h)
    have hhigh := exponent_shortest_le h (e := 30) (by exact_mod_cast hlarge)
    have hlength : (Nat.toDigits 10 x.shortest.digits).length ≤ 18 := by
      refine (Nat.length_toDigits_le_iff (by decide) (by decide)).mpr ?_
      omega
    have hsum : x.shortest.magnitude =
        x.shortest.exponent + (Nat.toDigits 10 x.shortest.digits).length - 1 := rfl
    have hnear := abs_value_shortest_sub_le h
    have hvalue := value_ofDecimal hpos.ne'
    have hscale : (ofBinary64 x).scale = -1 ∨ (ofBinary64 x).scale = x.shortest.exponent := by
      by_cases hd : IsPlainWhole x.shortest
      · exact .inl (ofDecimal_of_isPlainWhole hpos.ne' hd).2
      · exact .inr (ofDecimal_of_not_isPlainWhole hpos.ne' hd).2
    have hpower : ((ofBinary64 x).power.getD 0).natAbs ≤ maxStatedPower := by
      have hmax : maxStatedPower = 2147483647 := rfl
      have := power_ofDecimal x.shortest
      rw [ofBinary64]
      omega
    have hmax : maxPower = 308 := rfl
    have hbounds := abs_le.mp hnear
    rw [roundoff] at hbounds
    obtain ⟨y, hy, hdecoded⟩ := exists_shiftPower? (m := (ofBinary64 x).mantissa)
      (p := (ofBinary64 x).scale) (by omega) (.inr (by rw [ofBinary64, hvalue]; linarith))
      (by rw [ofBinary64, hvalue]; linarith)
    refine ⟨y, ?_, hdecoded, hvalue, hnear, hscale⟩
    rw [← hy]
    exact Number.toBinary64?_eq (mantissa_ofDecimal_lt hpos.ne' hdigits) hpower

end Number

end Json

end SuiteSplit

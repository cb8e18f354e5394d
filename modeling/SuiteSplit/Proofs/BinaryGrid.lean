import Mathlib.Data.Nat.Log
import SuiteSplit.Proofs.Rounding

/-!
The grid of binary64 numbers.

What is rounded lies on the grid of multiples of the spacing. Rounding keeps the order, and it comes back
to a number of the grid from less than half a spacing away. Below a power of two the spacing is the half
of that above, so there it needs to be said on which side one is.
-/

namespace SuiteSplit

section

variable {num num' den : Nat}

theorem roundHalfEven_le_succ (num den : Nat) : roundHalfEven num den ≤ num / den + 1 := by
  rw [roundHalfEven]
  split_ifs <;> omega

theorem roundHalfEven_mono (h : num ≤ num') : roundHalfEven num den ≤ roundHalfEven num' den := by
  rcases (Nat.div_le_div_right (c := den) h).lt_or_eq with hless | hsame
  · calc roundHalfEven num den ≤ num / den + 1 := roundHalfEven_le_succ num den
      _ ≤ num' / den := hless
      _ ≤ roundHalfEven num' den := div_le_roundHalfEven num' den
  · have hrest : num % den ≤ num' % den := by
      have hsplit := Nat.div_add_mod' num den
      have hsplit' := Nat.div_add_mod' num' den
      rw [hsame] at hsplit
      omega
    simp only [roundHalfEven, hsame]
    split_ifs <;> omega

end

namespace Binary64

section

variable {num num' den m n : Nat}

theorem spacing_le_of_le (h : m ≤ n) : spacing m ≤ spacing n := by
  rw [spacing, spacing, Nat.log2_eq_log_two, Nat.log2_eq_log_two]
  exact Nat.pow_le_pow_right (by decide) (Nat.sub_le_sub_right (Nat.log_mono_right h) 52)

theorem steps_ofSteps (num den : Nat) : (ofSteps num den).steps =
    roundHalfEven num (den * spacing (num / den)) * spacing (num / den) := rfl

/-- Rounding does not go beyond the next power of two. -/
theorem steps_ofSteps_le (hden : 0 < den) :
    (ofSteps num den).steps ≤ 2 ^ 53 * spacing (num / den) := by
  have hunit := spacing_pos (num / den)
  refine Nat.mul_le_mul_right _ (roundHalfEven_le (Nat.mul_pos hden hunit) ?_)
  have hlt : num < spacing (num / den) * 2 ^ 53 * den :=
    (Nat.div_lt_iff_lt_mul hden).mp (lt_spacing_mul (num / den))
  calc num ≤ spacing (num / den) * 2 ^ 53 * den := hlt.le
    _ = 2 ^ 53 * (den * spacing (num / den)) := by ring

/-- Rounding does not go below the power of two under a number. -/
theorem le_steps_ofSteps (hden : 0 < den) (h : 2 ^ 52 ≤ num / den) :
    2 ^ (num / den).log2 ≤ (ofSteps num den).steps := by
  have hunit := spacing_pos (num / den)
  rw [← spacing_mul_eq h, steps_ofSteps]
  refine Nat.mul_le_mul_right _ (le_trans ?_ (div_le_roundHalfEven _ _))
  rw [Nat.le_div_iff_mul_le (Nat.mul_pos hden hunit)]
  calc 2 ^ 52 * (den * spacing (num / den)) = spacing (num / den) * 2 ^ 52 * den := by ring
    _ ≤ num / den * den := Nat.mul_le_mul_right den (spacing_mul_le h)
    _ ≤ num := Nat.div_mul_le_self num den

/-- Rounding keeps the order. -/
theorem steps_ofSteps_mono (hden : 0 < den) (h : num ≤ num') :
    (ofSteps num den).steps ≤ (ofSteps num' den).steps := by
  have hquotient : num / den ≤ num' / den := Nat.div_le_div_right h
  rcases (spacing_le_of_le hquotient).eq_or_lt with hsame | hless
  · rw [steps_ofSteps, steps_ofSteps, hsame]
    exact Nat.mul_le_mul_right _ (roundHalfEven_mono h)
  · -- with another spacing there is a power of two in between
    have hlog : (num / den).log2 - 52 < (num' / den).log2 - 52 :=
      (Nat.pow_lt_pow_iff_right (by decide)).mp hless
    have hlarge : 2 ^ 52 ≤ num' / den := by
      refine (Nat.le_log2 ?_).mp (by omega)
      intro hzero
      rw [hzero, Nat.log2_zero] at hlog
      omega
    calc (ofSteps num den).steps ≤ 2 ^ 53 * spacing (num / den) := steps_ofSteps_le hden
      _ = 2 ^ ((num / den).log2 - 52 + 53) := by rw [spacing, ← Nat.pow_add, Nat.add_comm]
      _ ≤ 2 ^ (num' / den).log2 := Nat.pow_le_pow_right (by decide) (by omega)
      _ ≤ (ofSteps num' den).steps := le_steps_ofSteps hden hlarge

/-- A number of steps that a number can have: a multiple of the spacing there. -/
def IsOnGrid (m : Nat) : Prop := spacing m ∣ m

theorem isOnGrid_ofSteps (num : Nat) (hden : 0 < den) : IsOnGrid (ofSteps num den).steps := by
  have hle : (ofSteps num den).steps ≤ 2 ^ 53 * spacing (num / den) := steps_ofSteps_le hden
  rw [IsOnGrid]
  rcases hle.lt_or_eq with hless | hpower
  · refine Dvd.dvd.trans (spacing_dvd_of_lt ?_) (Nat.dvd_mul_left (2 ^ ((num / den).log2 - 52)) _)
    rwa [Nat.pow_add, Nat.mul_comm]
  · rw [hpower, spacing.eq_1 (num / den), ← Nat.pow_add, spacing, Nat.log2_two_pow]
    exact Nat.pow_dvd_pow 2 (Nat.sub_le _ _)

theorem ofSteps_one_of_isOnGrid (h : IsOnGrid m) : ofSteps m 1 = ⟨m⟩ := by
  have h := ofSteps_mul Nat.one_pos h
  rwa [Nat.mul_one] at h

theorem add_le_of_dvd {a b d : Nat} (hlt : a < b) (ha : d ∣ a) (hb : d ∣ b) : a + d ≤ b := by
  have hgap := Nat.le_of_dvd (Nat.sub_pos_of_lt hlt) (Nat.dvd_sub hb ha)
  omega

/-- Less than a spacing away from a number of the grid the spacing is the same, but for the numbers below
a power of two. -/
theorem spacing_eq_of_near {p : Nat} (hpos : m ≠ 0) (h : IsOnGrid m) (hlow : m ≤ p ∨ m ≠ 2 ^ m.log2)
    (hbelow : m < p + spacing m) (habove : p < m + spacing m) : spacing p = spacing m := by
  have hdvd (e : Nat) (he : m.log2 ≤ e) : spacing m ∣ 2 ^ e :=
    Nat.pow_dvd_pow 2 ((Nat.sub_le _ _).trans he)
  have hself : 2 ^ m.log2 ≤ m := Nat.log2_self_le hpos
  have hceil : p < 2 ^ (m.log2 + 1) :=
    habove.trans_le (add_le_of_dvd Nat.lt_log2_self h (hdvd _ (Nat.le_succ _)))
  have hfloor : 2 ^ m.log2 ≤ p := by
    rcases hlow with hle | hne
    · exact hself.trans hle
    · have hgap := add_le_of_dvd (lt_of_le_of_ne hself (Ne.symm hne)) (hdvd _ le_rfl) h
      omega
  have hp : p ≠ 0 := (lt_of_lt_of_le (Nat.two_pow_pos _) hfloor).ne'
  rw [spacing, (Nat.log2_eq_iff hp).mpr ⟨hfloor, hceil⟩, spacing]

/-- Less than half a spacing away from a number of the grid, rounding comes to it. -/
theorem ofSteps_one_eq_of_near {p : Nat} (hpos : m ≠ 0) (h : IsOnGrid m)
    (hlow : m ≤ p ∨ m ≠ 2 ^ m.log2) (hnear : |(p : ℚ) - m| < spacing m / 2) :
    ofSteps p 1 = ⟨m⟩ := by
  have hunit : (0 : ℚ) < spacing m := by exact_mod_cast spacing_pos m
  obtain ⟨hbelow, habove⟩ := abs_lt.mp hnear
  have hbelow' : m < p + spacing m := by
    have h : (m : ℚ) < p + spacing m := by linarith
    exact_mod_cast h
  have habove' : p < m + spacing m := by
    have h : (p : ℚ) < m + spacing m := by linarith
    exact_mod_cast h
  have hspacing := spacing_eq_of_near hpos h hlow hbelow' habove'
  obtain ⟨k, hk⟩ := h
  have hk' : (m : ℚ) = spacing m * k := by exact_mod_cast hk
  have hround : roundHalfEven p (1 * spacing m) = k := by
    refine roundHalfEven_eq_of_abs_sub_lt (by simpa using spacing_pos m) ?_
    have hscale : (p : ℚ) / (1 * spacing m : Nat) - k = (p - m) / spacing m := by
      rw [hk', Nat.one_mul, sub_div, mul_div_cancel_left₀ _ hunit.ne']
    rw [hscale, abs_div, abs_of_pos hunit, div_lt_iff₀ hunit]
    linarith
  rw [ofSteps, Nat.div_one, hspacing, hround, Nat.mul_comm k, ← hk]

end

end Binary64

end SuiteSplit

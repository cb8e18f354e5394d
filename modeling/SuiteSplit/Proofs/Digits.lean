import Mathlib.Algebra.Order.Ring.Nat
import Mathlib.Tactic.Ring
import SuiteSplit.Number.Digits

/-!
Runs of decimal digits and their values.
-/

namespace SuiteSplit

variable {cs : List Char} {n : Nat}

theorem natOfDigits_eq_ofDigitChars (cs : List Char) : natOfDigits cs = Nat.ofDigitChars 10 cs 0 := by
  rw [natOfDigits, Nat.ofDigitChars_eq_foldl]
  simp only [Nat.mul_comm]

@[simp] theorem natOfDigits_nil : natOfDigits [] = 0 := rfl

theorem natOfDigits_append (cs cs' : List Char) :
    natOfDigits (cs ++ cs') = natOfDigits cs * 10 ^ cs'.length + natOfDigits cs' := by
  rw [natOfDigits_eq_ofDigitChars, natOfDigits_eq_ofDigitChars, natOfDigits_eq_ofDigitChars,
    Nat.ofDigitChars_append, Nat.ofDigitChars_eq_ofDigitChars_zero, Nat.mul_comm]

@[simp] theorem natOfDigits_toDigits (n : Nat) : natOfDigits (Nat.toDigits 10 n) = n := by
  rw [natOfDigits_eq_ofDigitChars, Nat.ofDigitChars_toDigits (by decide) (by decide)]

@[simp] theorem natOfDigits_replicate (n : Nat) : natOfDigits (List.replicate n '0') = 0 := by
  induction n with
  | zero => rfl
  | succ n ih => rw [List.replicate_succ', natOfDigits_append, ih]; rfl

/-- Zeros in front do not count. -/
@[simp] theorem natOfDigits_zeros_append (n : Nat) (cs : List Char) :
    natOfDigits (List.replicate n '0' ++ cs) = natOfDigits cs := by
  rw [natOfDigits_append, natOfDigits_replicate, Nat.zero_mul, Nat.zero_add]

theorem isDigit_of_mem_toDigits {c : Char} (h : c ∈ Nat.toDigits 10 n) : c.isDigit :=
  Nat.isDigit_of_mem_toDigits (by decide) (by decide) h

theorem lt_ten_pow_length_toDigits (n : Nat) : n < 10 ^ (Nat.toDigits 10 n).length :=
  (Nat.length_toDigits_le_iff (by decide) Nat.length_toDigits_pos).mp le_rfl

theorem ten_pow_length_toDigits_le (hn : 0 < n) : 10 ^ ((Nat.toDigits 10 n).length - 1) ≤ n := by
  by_contra! h
  have hlength : 1 < (Nat.toDigits 10 n).length := by
    by_contra! hlength
    rw [Nat.sub_eq_zero_of_le hlength, Nat.pow_zero] at h
    omega
  have := (Nat.length_toDigits_le_iff (by decide) (by omega)).mpr h
  omega

/-- The digits of a positive number do not start with a zero. -/
theorem toDigits_ne_zero_cons (hn : 0 < n) (cs : List Char) : Nat.toDigits 10 n ≠ '0' :: cs := by
  induction n using Nat.strongRecOn generalizing cs with
  | ind n ih =>
    rw [Nat.toDigits_eq_if (by decide)]
    split
    · simp [hn.ne']
    · cases hfront : Nat.toDigits 10 (n / 10) with
      | nil => exact absurd hfront Nat.toDigits_ne_nil
      | cons c cs' =>
        intro h
        rw [List.cons_append, List.cons.injEq] at h
        exact ih (n / 10) (by omega) (by omega) cs' (h.1 ▸ hfront)

/-- Each zero at the end of the digits is a factor of ten. -/
theorem ten_pow_trailing_dvd (hn : 0 < n) :
    10 ^ ((Nat.toDigits 10 n).reverse.takeWhile (· = '0')).length ∣ n := by
  induction n using Nat.strongRecOn with
  | ind n ih =>
    rw [Nat.toDigits_eq_if (by decide)]
    split
    · simp [hn.ne']
    · rw [List.reverse_append, List.reverse_singleton, List.singleton_append, List.takeWhile_cons]
      by_cases hlast : n % 10 = 0
      · have h := ih (n / 10) (by omega) (by omega)
        rw [if_pos (by simpa using hlast), List.length_cons, Nat.pow_succ]
        calc _ ∣ n / 10 * 10 := Nat.mul_dvd_mul_right h 10
          _ = n := by omega
      · simp [hlast]

/-! ## Where digits end -/

/-- No digits go on here. -/
def EndsDigits (rest : List Char) : Prop := ∀ c cs, rest = c :: cs → c.isDigit = false

section

variable {digits rest : List Char}

theorem endsDigits_cons {c : Char} (h : c.isDigit = false) (cs : List Char) :
    EndsDigits (c :: cs) := by
  rintro c' cs' hc
  obtain ⟨rfl, -⟩ := List.cons.inj hc
  exact h

theorem takeWhile_digits (hdigits : ∀ c ∈ digits, c.isDigit) (hrest : EndsDigits rest) :
    (digits ++ rest).takeWhile Char.isDigit = digits := by
  rw [List.takeWhile_append_of_pos hdigits]
  cases rest with
  | nil => simp
  | cons c cs => simp [hrest c cs rfl]

theorem dropWhile_digits (hdigits : ∀ c ∈ digits, c.isDigit) (hrest : EndsDigits rest) :
    (digits ++ rest).dropWhile Char.isDigit = rest := by
  rw [List.dropWhile_append_of_pos hdigits]
  cases rest with
  | nil => rfl
  | cons c cs => simp [hrest c cs rfl]

end

end SuiteSplit

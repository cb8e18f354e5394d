import Mathlib
import SuiteSplit.Duration

/-!
Sums of durations. A sum stops at the longest duration, and it still does not matter how its
summands are bracketed: the total of totals is the total of everything in them. The nanoseconds of
a sum are the exact sum of the nanoseconds, cut at the end once.
-/

namespace SuiteSplit.Duration

theorem le_iff_nanos (a b : Duration) : a ≤ b ↔ a.nanos ≤ b.nanos := Iff.rfl

theorem lt_iff_nanos (a b : Duration) : a < b ↔ a.nanos < b.nanos := Iff.rfl

theorem add_assoc (a b c : Duration) : a + b + c = a + (b + c) := by
  apply ext
  simp only [nanos_add]
  omega

theorem zero_add (a : Duration) : zero + a = a := by
  have ha := a.nanos_le_longest
  apply ext
  simp only [nanos_add, nanos_zero]
  omega

theorem add_zero (a : Duration) : a + zero = a := by
  have ha := a.nanos_le_longest
  apply ext
  simp only [nanos_add, nanos_zero]
  omega

@[simp] theorem sum_nil : sum [] = zero := rfl

private theorem foldl_add_eq (start : Duration) (ds : List Duration) :
    ds.foldl (· + ·) start = start + sum ds := by
  induction ds generalizing start with
  | nil => exact (add_zero start).symm
  | cons d ds ih =>
    have htail : sum (d :: ds) = d + sum ds := by
      rw [sum, List.foldl_cons, ih, zero_add]
    rw [List.foldl_cons, ih, htail, add_assoc]

theorem sum_cons (d : Duration) (ds : List Duration) : sum (d :: ds) = d + sum ds := by
  rw [sum, List.foldl_cons, foldl_add_eq, zero_add]

theorem sum_append (ds es : List Duration) : sum (ds ++ es) = sum ds + sum es := by
  rw [sum, List.foldl_append, foldl_add_eq]
  rfl

/-- The sum is the exact number of nanoseconds, cut at the longest duration. -/
theorem nanos_sum (ds : List Duration) :
    (sum ds).nanos = min (ds.map nanos).sum longest.nanos := by
  induction ds with
  | nil => simp
  | cons d ds ih =>
    rw [sum_cons, nanos_add, ih, List.map_cons, List.sum_cons]
    omega

theorem sum_eq_zero_iff {ds : List Duration} : sum ds = zero ↔ ∀ d ∈ ds, d = zero := by
  have hlongest : longest.nanos ≠ 0 := by decide
  rw [Duration.ext_iff, nanos_sum, nanos_zero]
  simp [hlongest, Duration.ext_iff, List.sum_eq_zero_iff]

end SuiteSplit.Duration

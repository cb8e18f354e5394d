import SuiteSplit.Number.Power

/-!
Recorded execution times.

A duration is a whole number of nanoseconds with an upper end: the last nanosecond before 2^64
seconds. Sums stop at that end instead of passing it, so adding durations is associative and
commutative and never decreases a total.
-/

namespace SuiteSplit

/-- Nanoseconds in one second. -/
def nanosPerSecond : Nat := 10 ^ 9

/-- A time of at most 2^64 seconds less one nanosecond. -/
structure Duration where
  nanos : Nat
  nanos_lt : nanos < 2 ^ 64 * nanosPerSecond := by decide
deriving DecidableEq, Repr

namespace Duration

def longest : Duration := ⟨2 ^ 64 * nanosPerSecond - 1, by decide⟩

/-- The duration of `n` nanoseconds, or the longest one if that is more than it. -/
def ofNanos (n : Nat) : Duration :=
  ⟨min n longest.nanos, Nat.lt_of_le_of_lt (Nat.min_le_right _ _) longest.nanos_lt⟩

instance : Inhabited Duration := ⟨ofNanos 0⟩

def zero : Duration := ofNanos 0

/-- The sum, or the longest duration if the sum is more than it. -/
def add (a b : Duration) : Duration := ofNanos (a.nanos + b.nanos)

instance : Add Duration := ⟨add⟩

/-- The sum of a list, taken from the left. -/
def sum (ds : List Duration) : Duration := ds.foldl (· + ·) zero

instance : Ord Duration := ⟨fun a b => compare a.nanos b.nanos⟩
instance : LE Duration := ⟨fun a b => a.nanos ≤ b.nanos⟩
instance : LT Duration := ⟨fun a b => a.nanos < b.nanos⟩
instance (a b : Duration) : Decidable (a ≤ b) := inferInstanceAs (Decidable (a.nanos ≤ b.nanos))
instance (a b : Duration) : Decidable (a < b) := inferInstanceAs (Decidable (a.nanos < b.nanos))

def seconds (d : Duration) : Nat := d.nanos / nanosPerSecond

/-- The nanoseconds beyond the whole seconds. -/
def subsecond (d : Duration) : Nat := d.nanos % nanosPerSecond

@[simp] theorem nanos_ofNanos (n : Nat) : (ofNanos n).nanos = min n longest.nanos := rfl

@[simp] theorem nanos_zero : zero.nanos = 0 := rfl

theorem nanos_add (a b : Duration) : (a + b).nanos = min (a.nanos + b.nanos) longest.nanos := rfl

theorem nanos_le_longest (a : Duration) : a.nanos ≤ longest.nanos :=
  Nat.le_sub_one_of_lt a.nanos_lt

@[ext] theorem ext {a b : Duration} (h : a.nanos = b.nanos) : a = b := by
  cases a; cases b; simp_all

end Duration

end SuiteSplit

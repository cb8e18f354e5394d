import SuiteSplit.Number.Rounding

/-!
Nonnegative binary64 numbers in exact arithmetic.

Every finite binary64 number is a whole multiple of 2^-1074, and it is held as that multiple. An
operation is the exact one followed by one rounding to the nearest number with a 53-bit
significand, ties to the even significand.
-/

namespace SuiteSplit

/-- A nonnegative finite number, in steps of 2^-1074. -/
structure Binary64 where
  steps : Nat
deriving DecidableEq, Repr, Inhabited

namespace Binary64

/-- Steps in the number one. -/
def stepsPerOne : Nat := 2 ^ 1074

/-- The distance, in steps, between neighbouring numbers at and above `n` steps. -/
def spacing (n : Nat) : Nat := 2 ^ (n.log2 - 52)

/-- The number nearest to `num / den` steps. -/
def ofSteps (num den : Nat) : Binary64 :=
  let unit := spacing (num / den)
  ⟨roundHalfEven num (den * unit) * unit⟩

/-- The number nearest to `num / den`. -/
def nearest (num den : Nat) : Binary64 := ofSteps (num * stepsPerOne) den

/-- Numbers from 2^1024 on are beyond the largest finite one. -/
def isFinite (x : Binary64) : Bool := x.steps < 2 ^ 1024 * stepsPerOne

def add (x y : Binary64) : Binary64 := ofSteps (x.steps + y.steps) 1
def mul (x y : Binary64) : Binary64 := ofSteps (x.steps * y.steps) stepsPerOne
def div (x y : Binary64) : Binary64 := ofSteps (x.steps * stepsPerOne) y.steps

instance : Add Binary64 := ⟨add⟩
instance : Mul Binary64 := ⟨mul⟩
instance : Div Binary64 := ⟨div⟩

def zero : Binary64 := ⟨0⟩

def ofNat (n : Nat) : Binary64 := nearest n 1

/-- The whole number nearest to `k` times the number, ties to even. -/
def scaled (x : Binary64) (k : Nat) : Nat := roundHalfEven (x.steps * k) stepsPerOne

/-- The number is at most the whole number `n`. -/
def leNat (x : Binary64) (n : Nat) : Bool := x.steps ≤ n * stepsPerOne

/-- The number is below the whole number `n`. -/
def ltNat (x : Binary64) (n : Nat) : Bool := x.steps < n * stepsPerOne

end Binary64

end SuiteSplit

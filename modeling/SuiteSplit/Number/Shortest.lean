import SuiteSplit.Number.Binary64

/-!
The shortest decimal that reads back as a given binary64 number.

The reals that round to a number form an interval around it, with its ends when the significand is
even. On the grid of decimals with `n` digits the two neighbours of the number are tried, for
`n = 1, 2, …`; the first grid with a hit gives the digits, and of two hits the nearer is taken.
-/

namespace SuiteSplit

/-- The decimal `digits * 10 ^ exponent`. -/
structure Decimal where
  digits : Nat
  exponent : Int
deriving DecidableEq, Repr, Inhabited

namespace Decimal

/-- The same value without zeros at the end of the digits. -/
def trimZeros (d : Decimal) : Decimal :=
  let trailing := ((Nat.toDigits 10 d.digits).reverse.takeWhile (· = '0')).length
  if d.digits = 0 then ⟨0, 0⟩ else ⟨d.digits / 10 ^ trailing, d.exponent + trailing⟩

/-- The power of ten of the first digit: the `e` of `d.ddd * 10 ^ e`. -/
def magnitude (d : Decimal) : Int := d.exponent + (Nat.toDigits 10 d.digits).length - 1

end Decimal

namespace Binary64

/-- The power of ten of the first digit of a positive number. -/
def magnitude (x : Binary64) : Int :=
  let whole := x.steps / stepsPerOne
  if 0 < whole then (Nat.toDigits 10 whole).length - 1
  else
    match (List.range 330).find? fun j => stepsPerOne ≤ x.steps * 10 ^ j with
    | some j => -(j : Int)
    | none => 0

/-- The number as a quotient in units of `10 ^ k`. -/
def inUnits (x : Binary64) (k : Int) : Nat × Nat :=
  (x.steps * 10 ^ (-k).toNat, stepsPerOne * 10 ^ k.toNat)

/-- A decimal `d * 10 ^ k` rounds to the number. The tests are done on doubled steps, since an
end of the interval lies half a spacing away. -/
def holds (x : Binary64) (k : Int) (d : Nat) : Bool :=
  let (num, den) := x.inUnits k
  let unit := spacing x.steps
  let below := if x.steps = 2 ^ x.steps.log2 ∧ 1 < unit then unit / 2 else unit
  let even := (x.steps / unit) % 2 = 0
  let scale := 10 ^ (-k).toNat
  let within (gap distance : Nat) : Bool :=
    if even then distance ≤ gap else distance < gap
  if d * den ≤ num then within (below * scale) (2 * (num - d * den))
  else within (unit * scale) (2 * (d * den - num))

/-- The decimal with `n` digits in place that rounds to the number and is nearest to it. -/
def shortestWith? (x : Binary64) (n : Nat) : Option Decimal :=
  let k := x.magnitude - n + 1
  let (num, den) := x.inUnits k
  let low := num / den
  let high := low + 1
  let lowHolds := x.holds k low && 0 < low
  let highHolds := x.holds k high
  let nearerHigh := den < 2 * (num % den) ∨ (2 * (num % den) = den ∧ low % 2 = 1)
  if lowHolds && highHolds then some ⟨if nearerHigh then high else low, k⟩
  else if lowHolds then some ⟨low, k⟩
  else if highHolds then some ⟨high, k⟩
  else none

/-- The shortest decimal that rounds to the number. -/
def shortest (x : Binary64) : Decimal :=
  if x.steps = 0 then ⟨0, 0⟩
  else (((List.range 17).findSome? fun n => x.shortestWith? (n + 1)).getD ⟨0, 0⟩).trimZeros

end Binary64

end SuiteSplit

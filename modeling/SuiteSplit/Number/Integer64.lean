import SuiteSplit.Number.Numeral

/-!
Signed 64-bit integers as texts: an optional sign and digits.
-/

namespace SuiteSplit

/-- A number is a signed 64-bit integer. -/
def fitsInt64 (n : Int) : Bool := -2 ^ 63 ≤ n && n < 2 ^ 63

/-- The integer that a text writes. -/
def int64? (text : String) : Option Int :=
  let (negative, digits) := Numeral.splitSign text.toList
  let n : Int := natOfDigits digits
  let n := if negative then -n else n
  if digits ≠ [] ∧ digits.all Char.isDigit ∧ fitsInt64 n then some n else none

end SuiteSplit

import SuiteSplit.Number.Power

/-!
Rounding a quotient of natural numbers to a whole number.
-/

namespace SuiteSplit

/-- The whole number nearest to `num / den`; of two equally near ones the even one. -/
def roundHalfEven (num den : Nat) : Nat :=
  let whole := num / den
  let excess := 2 * (num % den)
  if excess < den then whole
  else if den < excess then whole + 1
  else if whole % 2 = 0 then whole
  else whole + 1

end SuiteSplit

import SuiteSplit.Number.Digits
import SuiteSplit.Number.Shortest

/-!
Decimal numerals: an optional sign, digits with an optional point and a digit on at least one side
of it, and an optional power of ten.
-/

namespace SuiteSplit

/-- A signed decimal as a numeral writes it. -/
structure Numeral where
  negative : Bool
  value : Decimal
deriving DecidableEq, Repr

namespace Numeral

/-- A leading sign, if there is one: whether it is a minus, and what follows it. -/
def splitSign : List Char → Bool × List Char
  | '-' :: rest => (true, rest)
  | '+' :: rest => (false, rest)
  | cs => (false, cs)

/-- The power of ten behind the digits; nothing at all stands for the power zero. -/
def readPower? : List Char → Option Int
  | [] => some 0
  | mark :: cs =>
    let (negative, digits) := splitSign cs
    if (mark = 'e' ∨ mark = 'E') ∧ digits ≠ [] ∧ digits.all Char.isDigit then
      some (if negative then -(natOfDigits digits : Int) else natOfDigits digits)
    else none

/-- What stands behind the whole digits: the digits of a fraction, if any, and the rest. -/
def splitFraction : List Char → List Char × List Char
  | '.' :: cs => cs.span Char.isDigit
  | cs => ([], cs)

def read? (cs : List Char) : Option Numeral :=
  let (negative, unsigned) := splitSign cs
  let (whole, behind) := unsigned.span Char.isDigit
  let (fraction, rest) := splitFraction behind
  let digits := whole ++ fraction
  if digits = [] then none
  else (readPower? rest).map fun power =>
    ⟨negative, ⟨natOfDigits digits, power - fraction.length⟩⟩

end Numeral

/-- The binary64 number nearest to a decimal; none if that is beyond the largest finite one. Far
from the range of binary64 the answer is known from the magnitude alone. -/
def Binary64.ofDecimal? (d : Decimal) : Option Binary64 :=
  if d.digits = 0 then some .zero
  else if 400 < d.magnitude then none
  else if d.magnitude < -400 then some .zero
  else
    let x := nearest (d.digits * 10 ^ d.exponent.toNat) (10 ^ (-d.exponent).toNat)
    if x.isFinite then some x else none

end SuiteSplit

import SuiteSplit.Number.Numeral
import SuiteSplit.Seconds
import SuiteSplit.Text.Blank

/-!
The `time` of a test case: seconds as a decimal numeral.

A blank text counts as zero. Times are at most thirty days, which is checked on the binary64 number;
a negative time is refused unless it is zero as a binary64 number.
-/

namespace SuiteSplit

/-- The longest time of one test: thirty days. -/
def maxCaseSeconds : Nat := 30 * 24 * 60 * 60

/-- The duration of a number of seconds that is no longer than a test can be. -/
def Duration.ofCaseSeconds? (x : Binary64) : Option Duration :=
  if x.leNat maxCaseSeconds then Duration.ofSeconds? x else none

/-- The duration that a `time` states. -/
def Duration.ofTimeText? (raw : List Char) : Option Duration :=
  let shown := Text.trim Text.isWhiteSpace raw
  if shown = [] then some .zero
  else
    match Numeral.read? shown with
    | none => none
    | some numeral =>
      match Binary64.ofDecimal? numeral.value with
      | none => none
      | some x => if numeral.negative ∧ x ≠ .zero then none else Duration.ofCaseSeconds? x

end SuiteSplit

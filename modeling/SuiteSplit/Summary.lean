import SuiteSplit.Batch
import SuiteSplit.Seconds

/-!
The summary of an assignment, a line for each batch.
-/

namespace SuiteSplit

namespace Duration

/-- Drops zeros from the end of a text, and then a point. -/
def trimFraction (cs : List Char) : List Char :=
  ((cs.reverse.dropWhile (· = '0')).dropWhile (· = '.')).reverse

/-- The seconds with at most three digits behind the point: the binary64 seconds are rounded to
thousandths, a half going to the even one, and zeros at the end are dropped. -/
def brief (d : Duration) : String :=
  let thousandths := d.toSeconds.scaled 1000
  let fraction := (Nat.toDigits 10 (thousandths % 1000 + 1000)).drop 1
  String.ofList (trimFraction (Nat.toDigits 10 (thousandths / 1000) ++ '.' :: fraction)) ++ "s"

end Duration

namespace Batch

def summaryLine (b : Batch) : String :=
  s!"{b.number}. tests = {b.tests.length}, total duration = {b.total.brief}\n"

/-- The summary of batches that share `totalTests` tests. -/
def summary (totalTests : Nat) (bs : List Batch) : String :=
  s!"Found {totalTests} tests\nGrouped them into batches:\n" ++ String.join (bs.map summaryLine)

end Batch

end SuiteSplit

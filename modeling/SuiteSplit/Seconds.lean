import SuiteSplit.Duration
import SuiteSplit.Number.Binary64

/-!
Durations as binary64 seconds.

Encoding rounds three times: the whole seconds, the quotient of the remaining nanoseconds by 10^9,
and their sum. Decoding rounds once, to the nearest nanosecond.
-/

namespace SuiteSplit.Duration

/-- The duration as a number of seconds. -/
def toSeconds (d : Duration) : Binary64 :=
  .ofNat d.seconds + .ofNat d.subsecond / .ofNat nanosPerSecond

/-- The duration of a number of seconds; none from 2^64 seconds on. -/
def ofSeconds? (x : Binary64) : Option Duration :=
  if x.ltNat (2 ^ 64) then some (ofNanos (x.scaled nanosPerSecond)) else none

end SuiteSplit.Duration

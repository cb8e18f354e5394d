import SuiteSplit.ClassGroup

/-!
Batches: the shares of the suite that run in parallel.
-/

namespace SuiteSplit

/-- Why a number of batches or the number of a batch is refused. -/
inductive CountError
  | notPositive (count : Int)
  | missing
  | outOfRange (number : Int) (count : Nat)
deriving DecidableEq, Repr

def CountError.message : CountError → String
  | notPositive count => s!"Number of batches must be a positive integer, got {count}"
  | missing => "Number of batches is not configured (use --batches or `number_of_batches`)"
  | outOfRange number count => s!"Batch number {number} is out of range 1..={count}"

def maxInt64 : Nat := 2 ^ 63 - 1

structure BatchCount where
  value : Nat
  pos : 0 < value
  le_max : value ≤ maxInt64
deriving DecidableEq, Repr

namespace BatchCount

/-- Accepts a positive signed 64-bit integer. Nothing is clamped. -/
def ofInt (n : Int) : Except CountError BatchCount :=
  if h : 0 < n ∧ n ≤ maxInt64 then
    .ok ⟨n.toNat, by omega, by omega⟩
  else .error (.notPositive n)

def checkNumber (count : BatchCount) (number : Int) : Except CountError Nat :=
  if 1 ≤ number ∧ number ≤ count.value then .ok number.toNat
  else .error (.outOfRange number count.value)

end BatchCount

/-- One share of the suite. A batch that was read from a manifest has the total that stands
there; one that was put together by `add` has the sum of its tests' times. -/
structure Batch where
  number : Nat
  tests : List TestRecord
  total : Duration
deriving DecidableEq, Repr, Inhabited

namespace Batch

def empty (number : Nat) : Batch := ⟨number, [], .zero⟩

/-- The batch with the tests of a group behind its own. -/
def add (b : Batch) (g : ClassGroup) : Batch :=
  { b with tests := b.tests ++ g.tests, total := b.total + g.total }

def addAll (b : Batch) (gs : List ClassGroup) : Batch := gs.foldl add b

/-- The distinct classes of the batch, in the order in which they were added. -/
def classnames (b : Batch) : List String := (b.tests.map (·.classname)).eraseDups

/-- The largest total, and zero without batches. -/
def makespan (bs : List Batch) : Duration :=
  bs.foldl (fun longest b => if longest ≤ b.total then b.total else longest) .zero

end Batch

end SuiteSplit

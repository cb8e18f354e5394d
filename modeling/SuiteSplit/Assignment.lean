import SuiteSplit.Batch

/-!
Longest-first assignment of class groups to batches.

Groups are placed in assignment order, each onto the batch with the smallest load so far, and among
equally loaded ones onto the one with the lowest number. A placed group is never moved. The loads
wait in a queue ordered by load and then by position, so that its front is the batch to take next.
-/

namespace SuiteSplit

structure BatchLoad where
  load : Duration
  position : Nat
deriving DecidableEq, Repr

/-- By load, and by position among equal loads. -/
def BatchLoad.precedes (a b : BatchLoad) : Bool :=
  a.load < b.load || (a.load = b.load && a.position ≤ b.position)

/-- The loads of the batches, the next one to take in front. -/
structure LoadQueue where
  loads : List BatchLoad
deriving DecidableEq, Repr

namespace LoadQueue

def idle (n : Nat) : LoadQueue := ⟨(List.range n).map fun i => ⟨.zero, i⟩⟩

/-- Puts a load in front of the first one that it precedes. -/
def insert (x : BatchLoad) : List BatchLoad → List BatchLoad
  | [] => [x]
  | y :: ys => if x.precedes y then x :: y :: ys else y :: insert x ys

/-- Takes the front of the queue and puts it back with a load raised by `d`. -/
def raiseFront? (q : LoadQueue) (d : Duration) : Option (Nat × LoadQueue) :=
  match q.loads with
  | [] => none
  | x :: xs => some (x.position, ⟨insert ⟨x.load + d, x.position⟩ xs⟩)

end LoadQueue

namespace Assignment

def place : List ClassGroup → LoadQueue → List Batch → List Batch
  | [], _, batches => batches
  | g :: gs, queue, batches =>
    match queue.raiseFront? g.total with
    | none => batches
    | some (position, queue) => place gs queue (batches.modify position (·.add g))

def emptyBatches (count : BatchCount) : List Batch :=
  (List.range count.value).map fun i => .empty (i + 1)

end Assignment

/-- Assigns every group to one of `count` batches. -/
def assign (count : BatchCount) (groups : List ClassGroup) : List Batch :=
  Assignment.place (ClassGroup.sortForAssignment groups) (.idle count.value)
    (Assignment.emptyBatches count)

/-- Groups the records by class and assigns the groups. -/
def plan (count : BatchCount) (records : List TestRecord) : List Batch :=
  assign count (ClassGroup.ofRecords records)

end SuiteSplit

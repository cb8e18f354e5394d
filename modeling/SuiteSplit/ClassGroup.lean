import SuiteSplit.TestRecord

/-!
Tests grouped by class.

Tests of one class share fixtures, so a class is the smallest unit that is placed. Grouping keeps
the order of the records inside a class, and the groups come back in assignment order: the longest
first, and by key among equally long ones.
-/

namespace SuiteSplit

/-- Tests that are placed together. -/
structure ClassGroup where
  key : String
  tests : List TestRecord
deriving DecidableEq, Repr, Inhabited

namespace ClassGroup

def total (g : ClassGroup) : Duration := Duration.sum (g.tests.map (·.duration))

/-- Assignment order: longest first, then by key. -/
def precedes (g h : ClassGroup) : Bool :=
  ((compare h.total g.total).then (compare g.key h.key)).isLE

/-- The groups in assignment order; groups that tie keep their order. -/
def sortForAssignment (gs : List ClassGroup) : List ClassGroup := gs.mergeSort precedes

/-- The group of one class: its records, in their order. -/
def ofClass (records : List TestRecord) (classname : String) : ClassGroup :=
  ⟨classname, records.filter (·.classname = classname)⟩

/-- One group for each class of the records, in assignment order. -/
def ofRecords (records : List TestRecord) : List ClassGroup :=
  sortForAssignment ((records.map (·.classname)).eraseDups.map (ofClass records))

end ClassGroup

end SuiteSplit

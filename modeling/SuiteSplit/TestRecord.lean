import SuiteSplit.Duration

/-!
What an earlier run recorded about one test.
-/

namespace SuiteSplit

/-- How a test ended. -/
inductive Outcome
  | successful
  | failed
  | skipped
deriving DecidableEq, Repr, Inhabited

namespace Outcome

def word : Outcome → String
  | successful => "successful"
  | failed => "failed"
  | skipped => "skipped"

def ofWord? (s : String) : Option Outcome :=
  [successful, failed, skipped].find? (·.word = s)

/-- The position in the order successful, failed, skipped. -/
def rank : Outcome → Nat
  | successful => 0
  | failed => 1
  | skipped => 2

instance : Ord Outcome := ⟨fun a b => compare a.rank b.rank⟩

end Outcome

/-- One executed test of an earlier run. The class is the unit that is never split. -/
structure TestRecord where
  classname : String
  name : String
  duration : Duration
  outcome : Outcome
deriving DecidableEq, Repr, Inhabited

namespace TestRecord

/-- The id that runners select tests by. -/
def id (t : TestRecord) : String := t.classname ++ "." ++ t.name

/-- By class, then name, then duration, then outcome. -/
def compare (a b : TestRecord) : Ordering :=
  (Ord.compare a.classname b.classname).then <|
    (Ord.compare a.name b.name).then <|
      (Ord.compare a.duration b.duration).then (Ord.compare a.outcome b.outcome)

instance : Ord TestRecord := ⟨compare⟩

/-- The records in ascending order. -/
def sorted (ts : List TestRecord) : List TestRecord :=
  ts.mergeSort fun a b => (compare a b).isLE

end TestRecord

end SuiteSplit

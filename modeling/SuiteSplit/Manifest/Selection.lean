import SuiteSplit.Batch

/-!
Which tests a worker runs.

A worker that finds no published batches runs everything. Otherwise it selects tests by the classes
of its batch, as prefixes of their ids.
-/

namespace SuiteSplit

inductive Selection
  | all
  | classes (names : List String)
deriving DecidableEq, Repr

namespace Selection

/-- The classes of a batch. -/
def ofBatch (b : Batch) : Selection := .classes b.classnames

/-- A pattern for each class, which stands for the ids that start with it. -/
def patterns : Selection → List String
  | all => []
  | classes names => names.map (· ++ "*")

def selects (s : Selection) (id : String) : Bool :=
  match s with
  | all => true
  | classes names => names.any fun name => name.toList.isPrefixOf id.toList

end Selection

end SuiteSplit

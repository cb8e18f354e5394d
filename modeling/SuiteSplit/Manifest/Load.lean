import SuiteSplit.Disk.Program
import SuiteSplit.Manifest.Error
import SuiteSplit.Manifest.Format
import SuiteSplit.Manifest.Index
import SuiteSplit.Manifest.Selection

/-!
Reading published batches back.
-/

namespace SuiteSplit

/-- The index in a directory, if there is one. -/
def loadIndex (directory : Path) : Program (Except ManifestError (Option BatchIndex)) := do
  let p := directory.join (.ofString BatchIndex.fileName)
  match ← Program.readText p with
  | .error .notFound => pure (.ok none)
  | .error e => pure (.error (.unreadable p e))
  | .ok text =>
    match BatchIndex.read? text with
    | none => pure (.error (.invalid p))
    | some index => pure (.ok (some index))

/-- Accepts the number of a batch by the index; without an index every positive number. -/
def checkNumber (index : Option BatchIndex) (number : Int) : Except CountError Nat :=
  match index with
  | some index => index.batchCount.bind (·.checkNumber number)
  | none => if 1 ≤ number then .ok number.toNat else .error (.outOfRange number 0)

/-- Reads the file of a batch, which has to describe that batch. -/
def readBatch (directory : Path) (number : Nat) : Program (Except ManifestError Batch) := do
  let p := directory.join (.ofString (ManifestFormat.fileName (.json .pretty) number))
  match ← Program.readText p with
  | .error e => pure (.error (.unreadable p e))
  | .ok text =>
    match Batch.read? text with
    | none => pure (.error (.invalid p))
    | some b =>
      if b.number = number then pure (.ok b) else pure (.error (.mismatch p b.number number))

def loadBatch (directory : Path) (number : Int) : Program (Except ManifestError Batch) := do
  match ← loadIndex directory with
  | .error e => pure (.error e)
  | .ok index =>
    match checkNumber index number with
    | .error e => pure (.error (.count e))
    | .ok number => readBatch directory number

/-- What the worker with a number runs: everything where no batches are published. -/
def resolve (directory : Path) (number : Int) : Program (Except ManifestError Selection) := do
  match ← loadIndex directory with
  | .error e => pure (.error e)
  | .ok none => pure (.ok .all)
  | .ok (some _) =>
    match ← loadBatch directory number with
    | .error e => pure (.error e)
    | .ok b => pure (.ok (.ofBatch b))

end SuiteSplit

import SuiteSplit.Disk.Directories
import SuiteSplit.Manifest.Error
import SuiteSplit.Manifest.Format
import SuiteSplit.Manifest.Index

/-!
Publishing an assignment.

All files are written into a staged directory beside the target. Only then the previous target is
retired, that is moved aside, and the staged directory takes its place. Should that fail the previous
target is moved back. So the target holds its previous files, or nothing, or all of the new ones.
-/

namespace SuiteSplit

/-- The files of an assignment: those of the batches, each in every format, and the index. -/
def manifestFiles (formats : List ManifestFormat) (index : BatchIndex) (bs : List Batch) :
    List (String × String) :=
  bs.flatMap (fun b => formats.map fun f => (f.fileName b.number, f.render b)) ++
    [(BatchIndex.fileName, index.render)]

namespace Publication

/-- How the names of staged and of retired directories start. -/
def stagedStart : String := ".testbatch-staging-"
def retiredStart : String := ".testbatch-retired-"

/-- The place of the previous target in the directory that it is retired to. -/
def previous (retired : Path) : Path := retired.join (.ofString "previous")

/-- Removes a directory. It stays behind if that fails. -/
def discard (p : Path) : Program Unit := do
  let _ ← Program.ask (.remove p)

def writeFiles (directory : Path) : List (String × String) → Program (Except ManifestError Unit)
  | [] => pure (.ok ())
  | (name, text) :: rest => do
    let p := directory.join (.ofString name)
    match ← Program.ask (.write p text.toUTF8) with
    | .error e => pure (.error (.unwritable p e))
    | .ok _ => writeFiles directory rest

/-- Fills a staged directory, which others may read. -/
def fill (staged : Path) (files : List (String × String)) : Program (Except ManifestError Unit) := do
  match ← Program.ask (.setMode staged directoryMode) with
  | .error e => pure (.error (.unwritable staged e))
  | .ok _ => writeFiles staged files

/-- Moves the target aside, if there is one, and tells whether there was. -/
def retire (target retired : Path) : Program (Except DiskError Bool) := do
  match ← Program.ask (.linkStat target) with
  | .error .notFound => pure (.ok false)
  | .error e => pure (.error e)
  | .ok _ =>
    match ← Program.ask (.rename target (previous retired)) with
    | .error e => pure (.error e)
    | .ok _ => pure (.ok true)

/-- Moves the previous target back, if there was one, and tells whether that failed, in which case it
stays where it is. -/
def restore (target retired : Path) (hadPrevious : Bool) : Program Bool := do
  if !hadPrevious then return false
  match ← Program.ask (.rename (previous retired) target) with
  | .error _ => pure true
  | .ok _ => pure false

/-- Moves the previous target back and removes what a swap has made. -/
def revert (staged target retired : Path) (hadPrevious : Bool) : Program Unit := do
  let kept ← restore target retired hadPrevious
  discard staged
  if !kept then discard retired

/-- Puts a staged directory in the place of the target, which has been moved aside. -/
def install (staged target retired : Path) (hadPrevious : Bool) :
    Program (Except ManifestError Unit) := do
  match ← Program.ask (.rename staged target) with
  | .ok _ =>
    discard retired
    pure (.ok ())
  | .error e =>
    revert staged target retired hadPrevious
    pure (.error (.unwritable target e))

/-- Moves the target aside and puts a staged directory in its place. -/
def swap (staged target : Path) : Program (Except ManifestError Unit) := do
  match ← Program.ask (.makePrivateDirectory target.directory retiredStart) with
  | .error e =>
    discard staged
    pure (.error (.unwritable target e))
  | .ok retired =>
    match ← retire target retired with
    | .error e =>
      discard retired
      discard staged
      pure (.error (.unwritable target e))
    | .ok hadPrevious => install staged target retired hadPrevious

/-- Fills a staged directory and puts it in the place of the target. -/
def commit (staged target : Path) (files : List (String × String)) :
    Program (Except ManifestError Unit) := do
  match ← fill staged files with
  | .error e =>
    discard staged
    pure (.error e)
  | .ok _ => swap staged target

def publishFiles (target : Path) (files : List (String × String)) :
    Program (Except ManifestError Unit) := do
  match ← Program.makeDirectories target.directory with
  | .error e => pure (.error (.unwritable target.directory e))
  | .ok _ =>
    match ← Program.ask (.makePrivateDirectory target.directory stagedStart) with
    | .error e => pure (.error (.unwritable target.directory e))
    | .ok staged => commit staged target files

/-- Publishes files and gives back the index that is one of them. -/
def publishIndexed (target : Path) (files : List (String × String)) (index : BatchIndex) :
    Program (Except ManifestError BatchIndex) := do
  match ← publishFiles target files with
  | .error e => pure (.error e)
  | .ok _ => pure (.ok index)

end Publication

def publish (formats : List ManifestFormat) (now : Timestamp) (target : Path) (bs : List Batch) :
    Program (Except ManifestError BatchIndex) :=
  let index := BatchIndex.ofBatches now bs
  Publication.publishIndexed target (manifestFiles formats index bs) index

end SuiteSplit

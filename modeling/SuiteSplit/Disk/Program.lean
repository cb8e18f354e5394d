import SuiteSplit.Disk

/-!
Programs that work on a disk.

A program is a tree: it is done with a value, or makes one call and goes on as the answer tells. Every
call can fail, and a program says what it does then. What a program does on a disk is a run; other
readings of the same tree are possible, such as one that lets calls fail or one that another program
works in between.
-/

namespace SuiteSplit

/-- A call on a disk. -/
inductive Request
  | stat (p : Path)
  | linkStat (p : Path)
  | read (p : Path)
  | list (p : Path)
  | makeDirectory (p : Path)
  /-- A directory for one user, under a new name with a start. -/
  | makePrivateDirectory (parent : Path) (start : String)
  | setMode (p : Path) (mode : Nat)
  | write (p : Path) (bytes : ByteArray)
  | rename (source target : Path)
  | remove (p : Path)

/-- What a call gives when it does not fail. -/
def Request.Value : Request → Type
  | stat _ | linkStat _ => NodeKind
  | read _ => ByteArray
  | list _ => List (FileName × Listing)
  | makePrivateDirectory .. => Path
  | makeDirectory _ | setMode .. | write .. | rename .. | remove _ => Unit

abbrev Request.Answer (r : Request) : Type := Except DiskError r.Value

namespace Disk

/-- The answer of a call that changes the disk, and the disk after it. -/
def settle {α : Type} (d : Disk) : Change α → Except DiskError α × Disk
  | .ok (a, d) => (.ok a, d)
  | .error e => (.error e, d)

def answer (d : Disk) : (r : Request) → r.Answer × Disk
  | .stat p => (d.stat p, d)
  | .linkStat p => (d.linkStat p, d)
  | .read p => (d.read p, d)
  | .list p => (d.list p, d)
  | .makeDirectory p => d.settle (d.makeDirectory p)
  | .makePrivateDirectory parent start => d.settle (d.makePrivateDirectory parent start)
  | .setMode p mode => d.settle (d.setMode p mode)
  | .write p bytes => d.settle (d.write p bytes)
  | .rename source target => d.settle (d.rename source target)
  | .remove p => d.settle (d.remove p)

end Disk

inductive Program (α : Type) : Type
  | done (a : α)
  | call (r : Request) (next : r.Answer → Program α)

namespace Program

variable {α β : Type}

/-- Goes on with a second program behind the first. -/
def bind : Program α → (α → Program β) → Program β
  | done a, f => f a
  | call r next, f => call r fun answer => (next answer).bind f

instance : Monad Program where
  pure := done
  bind := bind

def ask (r : Request) : Program r.Answer := call r done

def run : Program α → Disk → α × Disk
  | done a, d => (a, d)
  | call r next, d => (next (d.answer r).1).run (d.answer r).2

@[simp] theorem run_pure (a : α) (d : Disk) : (pure a : Program α).run d = (a, d) := rfl

/-- A second program behind the first runs on the disk that the first leaves. -/
theorem run_bind (p : Program α) (f : α → Program β) (d : Disk) :
    (p >>= f).run d = (f (p.run d).1).run (p.run d).2 := by
  change (p.bind f).run d = _
  induction p generalizing d with
  | done a => rfl
  | call r next ih => exact ih _ _

def readText (p : Path) : Program (Except DiskError String) := do
  match ← ask (.read p) with
  | .error e => pure (.error e)
  | .ok bytes =>
    match String.fromUTF8? bytes with
    | some text => pure (.ok text)
    | none => pure (.error .notText)

/-- Something stands at a path, at the end of links. -/
def isPresent (p : Path) : Program Bool := do pure (← ask (.stat p)).isOk

end Program

end SuiteSplit

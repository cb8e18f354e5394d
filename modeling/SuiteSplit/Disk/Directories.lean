import SuiteSplit.Disk.Program

/-!
Making a directory together with the directories around it.
-/

namespace SuiteSplit

/-- The path and the directories around it, from the inside, as far as the count goes. -/
def Path.around (count : Nat) (p : Path) : List Path :=
  match count with
  | 0 => []
  | count + 1 =>
    p :: match p.parent? with
    | none => []
    | some outer => outer.around count

/-- The path and the directories around it, from the inside. -/
def Path.ancestors (p : Path) : List Path := p.around (p.bytes.length + 1)

/-- The directory around a path; the current one for a path without segments around its last. -/
def Path.directory (p : Path) : Path :=
  match p.parent? with
  | some outer => if outer.bytes = [] then ⟨Path.dot⟩ else outer
  | none => ⟨Path.dot⟩

namespace Program

/-- What a failed call comes to when a directory at the path is all that was asked for. -/
def unlessDirectory (p : Path) (e : DiskError) : Program (Except DiskError Unit) := do
  match ← ask (.stat p) with
  | .ok .directory => pure (.ok ())
  | _ => pure (.error e)

/-- Makes the first of some directories, each of which lies in the next one. -/
def makeFirst : List Path → Program (Except DiskError Unit)
  | [] => pure (.ok ())
  | p :: outer => do
    if p.bytes = [] then return .ok ()
    match ← ask (.makeDirectory p) with
    | .ok _ => pure (.ok ())
    | .error .notFound =>
      match ← makeFirst outer with
      | .error e => pure (.error e)
      | .ok _ =>
        match ← ask (.makeDirectory p) with
        | .ok _ => pure (.ok ())
        | .error e => unlessDirectory p e
    | .error e => unlessDirectory p e

/-- Makes a directory and the directories around it, as far as they are not there. -/
def makeDirectories (p : Path) : Program (Except DiskError Unit) := makeFirst p.ancestors

end Program

end SuiteSplit

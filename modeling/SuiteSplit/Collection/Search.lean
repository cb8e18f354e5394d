import SuiteSplit.Collection.Error
import SuiteSplit.Disk.Program
import SuiteSplit.Pattern.FileName

/-!
Searching a directory for report files.

The search goes through all directories below the root, and does not follow links to directories. It
takes the files whose names match, and the links that lead to files and whose names match, in the
order of their paths.
-/

namespace SuiteSplit

namespace Listing

mutual

/-- The paths of a directory and of the directories below it. -/
def directories (p : Path) : Listing → List Path
  | .directory entries => p :: directoriesIn p entries
  | _ => []

def directoriesIn (p : Path) : List (FileName × Listing) → List Path
  | [] => []
  | (name, l) :: rest => directories (p.join ⟨name⟩) l ++ directoriesIn p rest

end

end Listing

/-- A path whose name matches, and whether it is a link. -/
structure Candidate where
  path : Path
  isLink : Bool
deriving DecidableEq, Repr

namespace Candidate

/-- The candidate for a path, if its name matches. -/
def ofPath (pattern : NamePattern) (p : Path) (isLink : Bool) : List Candidate :=
  if pattern.matchesPath p then [⟨p, isLink⟩] else []

mutual

def ofListing (pattern : NamePattern) (p : Path) : Listing → List Candidate
  | .file => ofPath pattern p false
  | .link => ofPath pattern p true
  | .directory entries => ofEntries pattern p entries

def ofEntries (pattern : NamePattern) (p : Path) : List (FileName × Listing) → List Candidate
  | [] => []
  | (name, l) :: rest => ofListing pattern (p.join ⟨name⟩) l ++ ofEntries pattern p rest

end

/-- The candidate is a file, or a link that leads to one. -/
def isFile (c : Candidate) : Program Bool :=
  if c.isLink then do
    match ← Program.ask (.stat c.path) with
    | .ok .file => pure true
    | _ => pure false
  else pure true

def files : List Candidate → Program (List Path)
  | [] => pure []
  | c :: cs => do
    let isFile ← c.isFile
    let rest ← files cs
    pure (if isFile then c.path :: rest else rest)

end Candidate

/-- The report files below a root. There are none where the root is missing or no directory. Each
directory below is opened by its path, and one that cannot be opened fails the search. -/
def findReports (pattern : NamePattern) (root : Path) :
    Program (Except CollectionError (List Path)) := do
  match ← Program.ask (.stat root) with
  | .error .notFound => pure (.ok [])
  | .error e => pure (.error (.failed e))
  | .ok .directory =>
    match ← Program.ask (.list root) with
    | .error e => pure (.error (.failed e))
    | .ok entries =>
      match (Listing.directoriesIn root entries).findSome? Path.fault? with
      | some e => pure (.error (.failed e))
      | none =>
        let files ← Candidate.files (Candidate.ofEntries pattern root entries)
        pure (.ok (files.mergeSort Path.precedes))
  | .ok _ => pure (.ok [])

end SuiteSplit

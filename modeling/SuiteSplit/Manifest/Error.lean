import SuiteSplit.Batch
import SuiteSplit.Disk.Error
import SuiteSplit.Path

/-!
Why batches cannot be published or read back.
-/

namespace SuiteSplit

inductive ManifestError
  | count (e : CountError)
  | unwritable (p : Path) (e : DiskError)
  | unreadable (p : Path) (e : DiskError)
  | invalid (p : Path)
  /-- The file of one batch describes another one. -/
  | mismatch (p : Path) (found expected : Nat)
deriving DecidableEq, Repr

namespace ManifestError

def message : ManifestError → String
  | count e => e.message
  | unwritable p e => s!"Failed to write batch manifests to {p.display}: {e.message}"
  | unreadable p e => s!"Failed to read batch manifest {p.display}: {e.message}"
  | invalid p => s!"Invalid batch manifest {p.display}"
  | mismatch p found expected =>
    s!"Invalid batch manifest {p.display}: manifest describes batch {found}, expected {expected}"

def cause? : ManifestError → Option DiskError
  | unwritable _ e | unreadable _ e => some e
  | _ => none

end ManifestError

end SuiteSplit

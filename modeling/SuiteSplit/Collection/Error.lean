import SuiteSplit.Disk.Error
import SuiteSplit.Path
import SuiteSplit.Report

/-!
Why the records of an earlier run cannot be collected.
-/

namespace SuiteSplit

inductive CollectionError
  | invalidPattern (text : String)
  | missingDirectory (p : Path)
  | unreadable (p : Path) (e : DiskError)
  | malformed (p : Path) (d : Report.Defect)
  /-- The directory cannot be searched. -/
  | failed (e : DiskError)
deriving DecidableEq, Repr

def CollectionError.message : CollectionError → String
  | invalidPattern text => s!"Invalid report pattern `{text}`"
  | missingDirectory p => s!"Test results directory not found: {p.display}"
  | unreadable p e => s!"Failed to read test report {p.display}: {e.message}"
  | malformed p d => s!"Failed to parse test report {p.display}: {d.message}"
  | failed e => s!"IO error: {e.message}"

end SuiteSplit

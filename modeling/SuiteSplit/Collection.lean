import SuiteSplit.Collection.Search
import SuiteSplit.Settings

/-!
Collecting the records of an earlier run.

Reports can be read in any order, also several at the same time: what was read is put in the order of
the paths before it counts. A report that cannot be read stops the collection, or is left out as a
whole with a warning, as the policy says.
-/

namespace SuiteSplit

/-- What reading the report at a path gave. -/
structure ReportRead where
  path : Path
  outcome : Except CollectionError (List TestRecord)

/-- The records that were collected, and why reports were left out. -/
structure Collected where
  records : List TestRecord := []
  skipped : List CollectionError := []
deriving DecidableEq, Repr

/-- A line for each report that was left out, and one for all of them. -/
def Collected.warnings (c : Collected) : List String :=
  c.skipped.map (fun e => s!"Skipping test report: {e.message}") ++
    if c.skipped.isEmpty then []
    else [s!"{c.skipped.length} test reports were skipped; timings may be incomplete"]

structure Collector where
  pattern : NamePattern := .standard
  policy : ReportPolicy := .fail
  /-- A missing directory is an error. -/
  requireRoot : Bool := false
  /-- Reports that may be read at the same time. -/
  maxReads : Nat := 1
  maxReads_pos : 0 < maxReads := by omega

namespace Collector

/-- The collector with a bound on reads at the same time; zero counts as one. -/
def withMaxReads (c : Collector) (n : Nat) : Collector :=
  { c with maxReads := max n 1, maxReads_pos := by omega }

def take (c : Collector) (known : Collected) (r : ReportRead) : Except CollectionError Collected :=
  match r.outcome, c.policy with
  | .ok records, _ => .ok { known with records := known.records ++ records }
  | .error e, .fail => .error e
  | .error e, .skip => .ok { known with skipped := known.skipped ++ [e] }

/-- Puts together what was read, in whatever order the reads come. -/
def combine (c : Collector) (reads : List ReportRead) : Except CollectionError Collected :=
  match (reads.mergeSort (·.path.precedes ·.path)).foldlM c.take {} with
  | .error e => .error e
  | .ok known => .ok { known with records := TestRecord.sorted known.records }

def readReport (p : Path) : Program ReportRead := do
  match ← Program.readText p with
  | .error e => pure ⟨p, .error (.unreadable p e)⟩
  | .ok text =>
    match Report.read text with
    | .error d => pure ⟨p, .error (.malformed p d)⟩
    | .ok records => pure ⟨p, .ok records⟩

/-- Reads reports one after the other. -/
def readReports : List Path → Program (List ReportRead)
  | [] => pure []
  | p :: ps => do
    let r ← readReport p
    pure (r :: (← readReports ps))

/-- What is wrong with the root, if it has to be there. -/
def rootFault? (c : Collector) (root : Path) : Program (Option CollectionError) :=
  if c.requireRoot then do
    match ← Program.ask (.stat root) with
    | .error .notFound => pure (some (.missingDirectory root))
    | .error e => pure (some (.failed e))
    | .ok _ => pure none
  else pure none

/-- Collects the records below a root. Here one report is read after the other, without a pool of permits
that limits how many are read at the same time. -/
def collect (c : Collector) (root : Path) : Program (Except CollectionError Collected) := do
  match ← c.rootFault? root with
  | some e => pure (.error e)
  | none =>
    match ← findReports c.pattern root with
    | .error e => pure (.error e)
    | .ok files => pure (c.combine (← readReports files))

end Collector

def Settings.collector (s : Settings) : Except CollectionError Collector :=
  match NamePattern.ofText? s.reportPattern with
  | none => .error (.invalidPattern s.reportPattern)
  | some pattern =>
    let c : Collector := { pattern, policy := s.policy, requireRoot := s.requireResults }
    .ok (match s.maxReads with
      | none => c
      | some n => c.withMaxReads n)

end SuiteSplit

import SuiteSplit.Batch
import SuiteSplit.Expansion
import SuiteSplit.Pattern.FileName
import SuiteSplit.Toml.Reader

/-!
The settings of a run.

Settings stand in the table `batching` of a TOML document. What is not set has a default, except for
the number of batches; unknown keys do not count. An array gives the settings by their order. Paths
are expanded when the settings are read.
-/

namespace SuiteSplit

/-- What becomes of a run with a report that cannot be read. -/
inductive ReportPolicy
  | fail
  | skip
deriving DecidableEq, Repr, Inhabited

namespace ReportPolicy

def word : ReportPolicy → String
  | fail => "fail"
  | skip => "skip"

def ofWord? (s : String) : Option ReportPolicy := [fail, skip].find? (·.word = s)

end ReportPolicy

structure Settings where
  batches : Option Int := none
  resultsDirectory : Path := .ofString "test-results"
  outputDirectory : Path := .ofString "batches"
  reportPattern : String := NamePattern.standardText
  policy : ReportPolicy := .fail
  requireResults : Bool := false
  maxReads : Option Nat := none
deriving DecidableEq, Repr, Inhabited

/-- Why a document gives no settings. -/
inductive SettingsError
  | malformed
  /-- A path with a variable that has no value. -/
  | unexpandable (path : Path)
deriving DecidableEq, Repr

def SettingsError.message : SettingsError → String
  | malformed => "Failed to parse config"
  | unexpandable path => s!"Failed to expand path: {path.display}"

namespace Settings

/-- The name of the file that holds the settings when no other file is named. -/
def fileName : String := "testbatch.toml"

/-! ## Values -/

def text? : Toml.Value → Option String
  | .text s => some (.ofList s)
  | _ => none

def path? (v : Toml.Value) : Option Path := (text? v).map .ofString

def bool? : Toml.Value → Option Bool
  | .bool b => some b
  | _ => none

def integer? : Toml.Value → Option Int
  | .integer n => some n
  | _ => none

def count? (v : Toml.Value) : Option Nat := (integer? v).bind (·.toNat?)

/-- A table or an array without content. -/
def isBlank : Toml.Value → Bool
  | .table _ entries => entries.isEmpty
  | .array items => items.isEmpty
  | _ => false

/-- A policy is its word, or a table whose one key is the word and has nothing as its value. -/
def policy? : Toml.Value → Option ReportPolicy
  | .text s => ReportPolicy.ofWord? (.ofList s)
  | .table _ [(key, v)] => if isBlank v then ReportPolicy.ofWord? (.ofList key) else none
  | _ => none

/-- The value of a setting: what stands there, or else its default. -/
def setting? {α : Type} (fallback : α) (decode : Toml.Value → Option α) :
    Option Toml.Value → Option α
  | none => some fallback
  | some v => decode v

/-! ## Documents -/

/-- The keys of the settings, in the order in which an array gives them. -/
def keys : List String :=
  ["number_of_batches", "results_dir", "output_dir", "report_pattern", "on_malformed_report",
    "require_results", "max_concurrent_reads"]

/-- What stands for each key. A point in time sets nothing. -/
def values? : Toml.Value → Option (List (Option Toml.Value))
  | .table _ entries => some (keys.map fun key => entries.lookup key.toList)
  | .array items => some (keys.mapIdx fun i _ => items[i]?)
  | .tables items => some (keys.mapIdx fun i _ => items[i]?.map (.table .header))
  | .moment _ => some (keys.map fun _ => none)
  | _ => none

/-- The settings of a value, with paths as they are written. -/
def ofToml? (v : Toml.Value) : Option Settings := do
  let [batches, results, output, pattern, policy, require, reads] ← values? v | none
  let standard : Settings := {}
  pure {
    batches := ← setting? standard.batches (integer? · |>.map some) batches
    resultsDirectory := ← setting? standard.resultsDirectory path? results
    outputDirectory := ← setting? standard.outputDirectory path? output
    reportPattern := ← setting? standard.reportPattern text? pattern
    policy := ← setting? standard.policy policy? policy
    requireResults := ← setting? standard.requireResults bool? require
    maxReads := ← setting? standard.maxReads (count? · |>.map some) reads
  }

/-- The settings of a text, with paths as they are written. -/
def parse? (text : String) : Option Settings :=
  (Toml.read? text).bind fun entries => setting? {} ofToml? (entries.lookup "batching".toList)

def expandPath (env : Environment) (p : Path) : Except SettingsError Path :=
  match p.expand? env with
  | some p => .ok p
  | none => .error (.unexpandable p)

def expand (env : Environment) (s : Settings) : Except SettingsError Settings := do
  let resultsDirectory ← expandPath env s.resultsDirectory
  let outputDirectory ← expandPath env s.outputDirectory
  pure { s with resultsDirectory, outputDirectory }

def read (env : Environment) (text : String) : Except SettingsError Settings :=
  match parse? text with
  | none => .error .malformed
  | some s => s.expand env

/-! ## Use -/

def batchCount (s : Settings) : Except CountError BatchCount :=
  match s.batches with
  | none => .error .missing
  | some n => BatchCount.ofInt n

end Settings

end SuiteSplit

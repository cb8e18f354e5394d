import SuiteSplit.Assignment
import SuiteSplit.Collection
import SuiteSplit.CommandLine
import SuiteSplit.Manifest.Load
import SuiteSplit.Manifest.Publish
import SuiteSplit.Settings.Load
import SuiteSplit.Settings.Template
import SuiteSplit.Summary

/-!
What the commands do.

A command works on the disk and ends with what it prints, and with a failure if there is one. What was
printed before the failure stays printed.
-/

namespace SuiteSplit

/-- What went wrong, and what lies behind it. -/
structure Failure where
  message : String
  cause : Option String := none
deriving DecidableEq, Repr

/-- Whether a run succeeds. Misuse of the command line is not a failure of a command. -/
inductive Status
  | succeeded
  | failed (failure : Failure)
  | misused
deriving DecidableEq, Repr

/-- What a run prints, what it warns of, and whether it succeeds. -/
structure Ending where
  output : String := ""
  warnings : List String := []
  status : Status := .succeeded
deriving DecidableEq, Repr

namespace Ending

def ofFailure (f : Failure) : Ending := { status := .failed f }

def failed (message : String) (cause : Option String := none) : Ending :=
  ofFailure { message, cause }

def ofLines (lines : List String) : Ending := { output := String.join (lines.map (· ++ "\n")) }

def warned (warnings : List String) (e : Ending) : Ending :=
  { e with warnings := warnings ++ e.warnings }

def complaint (e : Ending) : String :=
  match e.status with
  | .failed ⟨message, none⟩ => s!"Error: {message}\n"
  | .failed ⟨message, some cause⟩ => s!"Error: {message}\n\nCaused by:\n    {cause}\n"
  | _ => ""

def code (e : Ending) : Nat :=
  match e.status with
  | .succeeded => 0
  | .failed _ => 1
  | .misused => 2

end Ending

namespace Settings

def prepare (s : Settings) : Except Failure (BatchCount × Collector) :=
  match s.batchCount with
  | .error e => .error { message := e.message }
  | .ok count =>
    match s.collector with
    | .error e => .error { message := e.message }
    | .ok collector => .ok (count, collector)

/-- The policy, once reports may be left out. -/
def policyOr (s : Settings) (skipMalformed : Bool) : ReportPolicy :=
  if skipMalformed then .skip else s.policy

/-- The settings with the options of the command line in their place. -/
def withGroupOptions (s : Settings) (o : GroupOptions) : Settings :=
  { s with
    resultsDirectory := o.resultsDirectory.getD s.resultsDirectory
    outputDirectory := o.outputDirectory.getD s.outputDirectory
    batches := o.batches <|> s.batches
    policy := s.policyOr o.skipMalformed }

def withListOptions (s : Settings) (o : ListOptions) : Settings :=
  { s with
    resultsDirectory := o.resultsDirectory.getD s.resultsDirectory
    policy := s.policyOr o.skipMalformed }

/-- The lines that show the settings, in front of the number of batches and behind it. -/
def heading : List String := ["Configuration is valid!", "", "Settings:"]

def lines (s : Settings) : List String :=
  [s!"  Results dir: {s.resultsDirectory.display}", s!"  Output dir: {s.outputDirectory.display}",
    s!"  Report pattern: {s.reportPattern}", s!"  On malformed report: {s.policy.word}",
    s!"  Require results: {s.requireResults}"] ++
    (s.maxReads.map fun n => s!"  Max concurrent reads: {n}").toList

end Settings

namespace Command

def collect (s : Settings) (c : Collector) : Program (Except Failure Collected) := do
  match ← c.collect s.resultsDirectory with
  | .error e =>
    let message := s!"Failed to collect test results from {s.resultsDirectory.display}"
    pure (.error ⟨message, some e.message⟩)
  | .ok collected => pure (.ok collected)

def shown (json : Bool) (bs : List Batch) (totalTests : Nat) : String :=
  if json then (Json.Value.array (bs.map (·.toJson))).render .pretty ++ "\n"
  else Batch.summary totalTests bs

/-- Groups the records of an earlier run into batches and publishes them. Settings are checked before
anything is touched. -/
def groupTests (now : Timestamp) (s : Settings) (json : Bool) : Program Ending := do
  match s.prepare with
  | .error failure => pure (.ofFailure failure)
  | .ok (count, collector) =>
    match ← collect s collector with
    | .error failure => pure (.ofFailure failure)
    | .ok collected =>
      let bs := plan count collected.records
      let ending ← match ← publish ManifestFormat.standard now s.outputDirectory bs with
        | .error e => pure (Ending.failed e.message (e.cause?.map (·.message)))
        | .ok _ => pure { output := shown json bs collected.records.length }
      pure (ending.warned collected.warnings)

def printPatterns (directory : Path) (number : Int) : Program Ending := do
  if number < 1 then
    pure (.failed s!"Batch number must be a positive integer, got {number}")
  else
    match ← resolve directory number with
    | .error e =>
      let message := s!"Failed to load batch {number} from {directory.display}"
      pure (.failed message (some e.message))
    | .ok selection => pure (.ofLines selection.patterns)

/-- Prints the ids of the tests of an earlier run. -/
def listTests (s : Settings) : Program Ending := do
  match s.collector with
  | .error e => pure (.failed e.message)
  | .ok collector =>
    match ← collect s collector with
    | .error failure => pure (.ofFailure failure)
    | .ok collected =>
      let count := s!"Found {collected.records.length} tests"
      let ending := Ending.ofLines (collected.records.map (·.id) ++ [count])
      pure (ending.warned collected.warnings)

/-- Prints settings that are in order. -/
def showSettings (s : Settings) : Ending :=
  match s.collector with
  | .error e => .failed e.message
  | .ok _ =>
    match s.batches, s.batchCount with
    | none, _ =>
      .ofLines (Settings.heading ++ "  Number of batches: (not set, pass --batches)" :: s.lines)
    | some _, .ok count =>
      .ofLines (Settings.heading ++ s!"  Number of batches: {count.value}" :: s.lines)
    | some _, .error e =>
      { Ending.ofLines Settings.heading with status := .failed { message := e.message } }

def writeTemplate (p : Path) (force : Bool) : Program Ending := do
  if (← Program.isPresent p) && !force then
    pure (.failed <| s!"{p.display} already exists. " ++
      "Remove it first, edit it manually or pass --force.")
  else
    match ← Program.ask (.write p Settings.template.toUTF8) with
    | .error e => pure (.failed s!"Failed to write {p.display}" (some e.message))
    | .ok _ =>
      pure (.ofLines [s!"Created {p.display}", "",
        "Edit the configuration as needed, then run:", "  testbatch group"])

def withSettings (env : Environment) (file : Option Path) (next : Settings → Program Ending) :
    Program Ending := do
  match ← Settings.loadFor env file with
  | .error e => pure (.failed e.message (some e.cause))
  | .ok s => next s

end Command

def Invocation.perform (env : Environment) (now : Timestamp) (i : Invocation) : Program Ending :=
  match i.command with
  | .group o =>
    Command.withSettings env i.settingsFile fun s =>
      Command.groupTests now (s.withGroupOptions o) o.json
  | .filter number directory =>
    Command.withSettings env i.settingsFile fun s =>
      Command.printPatterns (directory.getD s.outputDirectory) number
  | .list o =>
    Command.withSettings env i.settingsFile fun s => Command.listTests (s.withListOptions o)
  | .validate =>
    Command.withSettings env i.settingsFile fun s => pure (Command.showSettings s)
  | .init force =>
    Command.writeTemplate (i.settingsFile.getD (.ofString Settings.fileName)) force

def versionLine : String := "testbatch 0.1.0"

def perform (env : Environment) (now : Timestamp) (args : List String) : Program Ending :=
  match CommandLine.read env args with
  | .ok i => i.perform env now
  | .error .version => pure (.ofLines [versionLine])
  | .error .help => pure {}
  | .error .usage => pure { status := .misused }

end SuiteSplit

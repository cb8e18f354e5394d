import SuiteSplit.CommandLine.Form
import SuiteSplit.Expansion
import SuiteSplit.Number.Integer64
import SuiteSplit.Path

/-!
The command line: what it asks for.

Some options stand in front of the command or behind it, the other ones belong to their command. A
variable of the environment can stand in for an option.
-/

namespace SuiteSplit

structure GroupOptions where
  resultsDirectory : Option Path := none
  outputDirectory : Option Path := none
  batches : Option Int := none
  skipMalformed : Bool := false
  json : Bool := false
deriving DecidableEq, Repr

structure ListOptions where
  resultsDirectory : Option Path := none
  skipMalformed : Bool := false
deriving DecidableEq, Repr

structure FilterOptions where
  batchesDirectory : Option Path := none
  number : Option Int := none
deriving DecidableEq, Repr

inductive Command
  | group (options : GroupOptions)
  | filter (number : Int) (batchesDirectory : Option Path)
  | list (options : ListOptions)
  | validate
  | init (force : Bool)
deriving DecidableEq, Repr

/-- A command, and the file with the settings if one is named. -/
structure Invocation where
  settingsFile : Option Path
  verbose : Bool
  command : Command
deriving DecidableEq, Repr

namespace CommandLine

/-- The options that stand in front of a command or behind it, and those of the command. -/
structure Options (α : Type) where
  settingsFile : Option Path := none
  verbose : Bool := false
  own : α
deriving Repr

/-! ## Single values -/

/-- Sets what was not set before. -/
def once {α : Type} (old new : Option α) : Option (Option α) :=
  match old with
  | none => new.map some
  | some _ => none

/-- Raises a flag that was not raised before. -/
def raise (old : Bool) : Option Bool := if old then none else some true

/-- A path is not empty. -/
def path? (value : String) : Option Path := if value = "" then none else some (.ofString value)

/-! ## Forms of options -/

variable {α : Type}

def pathForm (name : String) (letter : Option Char) (take : Option Path → α → Option α) :
    OptionForm α :=
  ⟨name, letter, .value ⟨false, fun value => take (path? value)⟩⟩

def numberForm (name : String) (letter : Option Char) (take : Option Int → α → Option α) :
    OptionForm α :=
  ⟨name, letter, .value ⟨true, fun value => take (int64? value)⟩⟩

def flagForm (name : String) (letter : Option Char) (take : α → Option α) : OptionForm α :=
  ⟨name, letter, .flag take⟩

def stopForm (name : String) (letter : Char) (s : Stop) : OptionForm α :=
  ⟨name, some letter, .stop s⟩

def sharedForms : List (OptionForm (Options α)) :=
  [pathForm "config" (some 'c') fun file o =>
      (once o.settingsFile file).map fun settingsFile => { o with settingsFile },
    flagForm "verbose" (some 'v') fun o => (raise o.verbose).map fun verbose => { o with verbose },
    stopForm "help" 'h' .help]

/-- An effect on the options of a command among all options. -/
def ownEffect : Effect α → Effect (Options α)
  | .flag take => .flag fun o => (take o.own).map fun own => { o with own }
  | .value form =>
    .value ⟨form.isNumber, fun value o => (form.take value o.own).map fun own => { o with own }⟩
  | .stop s => .stop s

/-- The options of a command, together with those that stand anywhere. -/
def withShared (forms : List (OptionForm α)) : List (OptionForm (Options α)) :=
  forms.map (fun form => ⟨form.name, form.letter, ownEffect form.effect⟩) ++ sharedForms

def groupForms : List (OptionForm GroupOptions) :=
  [pathForm "results-dir" none fun p o =>
      (once o.resultsDirectory p).map fun resultsDirectory => { o with resultsDirectory },
    pathForm "output-dir" none fun p o =>
      (once o.outputDirectory p).map fun outputDirectory => { o with outputDirectory },
    numberForm "batches" (some 'n') fun n o =>
      (once o.batches n).map fun batches => { o with batches },
    flagForm "skip-malformed" none fun o =>
      (raise o.skipMalformed).map fun skipMalformed => { o with skipMalformed },
    flagForm "json" none fun o => (raise o.json).map fun json => { o with json }]

def filterForms : List (OptionForm FilterOptions) :=
  [numberForm "batch-number" none fun n o => (once o.number n).map fun number => { o with number },
    pathForm "batches-dir" none fun p o =>
      (once o.batchesDirectory p).map fun batchesDirectory => { o with batchesDirectory }]

def listForms : List (OptionForm ListOptions) :=
  [pathForm "results-dir" none fun p o =>
      (once o.resultsDirectory p).map fun resultsDirectory => { o with resultsDirectory },
    flagForm "skip-malformed" none fun o =>
      (raise o.skipMalformed).map fun skipMalformed => { o with skipMalformed }]

def initForms : List (OptionForm Bool) := [flagForm "force" none raise]

/-! ## Commands -/

/-- The number of an option, or else of the variable that stands in for it. -/
def numberOr (env : Environment) (name : String) (given : Option Int) :
    Except Stop (Option Int) :=
  match given, env.find? name with
  | some n, _ => .ok (some n)
  | none, none => .ok none
  | none, some value =>
    match int64? value with
    | some n => .ok (some n)
    | none => .error .usage

/-- Reads the options of a command up to the end. -/
def readOwn (forms : List (OptionForm α)) (own : α) (args : List String) :
    Except Stop (Options α) :=
  (readOptions (withShared forms) [] ⟨{ own }, none⟩ args).map (·.1)

def words : List String := ["group", "filter", "list", "validate", "init", "help"]

/-- Reads a command behind its word. -/
def readCommand (env : Environment) (word : String) (args : List String) :
    Except Stop (Options Command) :=
  match word with
  | "group" => do
    let o ← readOwn groupForms {} args
    let batches ← numberOr env "NUMBER_OF_BATCHES" o.own.batches
    pure { o with own := .group { o.own with batches } }
  | "filter" => do
    let o ← readOwn filterForms {} args
    match ← numberOr env "BATCH_NUMBER" o.own.number with
    | some number => pure { o with own := .filter number o.own.batchesDirectory }
    | none => .error .usage
  | "list" => do
    let o ← readOwn listForms {} args
    pure { o with own := .list o.own }
  | "validate" => do
    let o ← readOwn [] () args
    pure { o with own := .validate }
  | "init" => do
    let o ← readOwn initForms false args
    pure { o with own := .init o.own }
  | _ => .error .help

/-- Reads the arguments of a command line. Of an option on both sides of the command the one behind
it counts. -/
def read (env : Environment) (args : List String) : Except Stop Invocation := do
  let forms := stopForm "version" 'V' .version :: withShared ([] : List (OptionForm Unit))
  let (outer, rest) ← readOptions forms words ⟨{ own := () }, none⟩ args
  match rest with
  | [] => .error .usage
  | word :: rest =>
    let inner ← readCommand env word rest
    pure ⟨inner.settingsFile <|> outer.settingsFile, outer.verbose || inner.verbose, inner.own⟩

end CommandLine

end SuiteSplit

import SuiteSplit.Disk.Program
import SuiteSplit.Settings

/-!
Loading settings from a file.
-/

namespace SuiteSplit

/-- Why a file gives no settings. -/
inductive LoadError
  | unreadable (p : Path) (e : DiskError)
  | faulty (p : Path) (e : SettingsError)
deriving DecidableEq, Repr

namespace LoadError

def message : LoadError → String
  | unreadable p _ => s!"Failed to read config file: {p.display}"
  | faulty p _ => s!"Failed to load config file: {p.display}"

/-- What lies behind the error. -/
def cause : LoadError → String
  | unreadable _ e => e.message
  | faulty _ e => e.message

end LoadError

namespace Settings

def load (env : Environment) (p : Path) : Program (Except LoadError Settings) := do
  match ← Program.readText p with
  | .error e => pure (.error (.unreadable p e))
  | .ok text =>
    match read env text with
    | .error e => pure (.error (.faulty p e))
    | .ok s => pure (.ok s)

/-- Loads the settings of a file that may be missing unless it is asked for. -/
def loadOrDefault (env : Environment) (p : Path) (asked : Bool) :
    Program (Except LoadError Settings) := do
  if asked then load env p
  else if ← Program.isPresent p then load env p
  else pure (.ok {})

/-- The file that is asked for, or else the usual one. -/
def loadFor (env : Environment) (file : Option Path) : Program (Except LoadError Settings) :=
  loadOrDefault env (file.getD (.ofString fileName)) file.isSome

end Settings

end SuiteSplit

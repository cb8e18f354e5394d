import SuiteSplit.Command

/-!
The program: it answers the calls of a command line on the real disk.
-/

namespace SuiteSplit

/-- The error of a call. -/
def DiskError.ofIO (e : IO.Error) : DiskError :=
  match e with
  | .alreadyExists _ number text | .otherError number text | .resourceBusy number text
  | .resourceVanished number text | .unsupportedOperation number text | .hardwareFault number text
  | .unsatisfiedConstraints number text | .illegalOperation number text
  | .protocolError number text | .timeExpired number text | .interrupted _ number text
  | .noFileOrDirectory _ number text | .invalidArgument _ number text
  | .permissionDenied _ number text | .resourceExhausted _ number text
  | .inappropriateType _ number text | .noSuchThing _ number text => .ofNumber number.toNat text
  | .unexpectedEof => .other 0 "unexpected end of file"
  | .userError text => .other 0 text

def attempt {α : Type} (action : IO α) : IO (Except DiskError α) := do
  match ← action.toBaseIO with
  | .ok a => pure (.ok a)
  | .error e => pure (.error (.ofIO e))

def NodeKind.ofType : IO.FS.FileType → NodeKind
  | .dir => .directory
  | .symlink => .link
  | _ => .file

/-- The file at a path. There is none at the empty path. -/
def fileAt (p : Path) := show IO _ from do
  if p.bytes = [] then throw (.noFileOrDirectory "" 2 "")
  pure ((← IO.currentDir) / p.display)

partial def listBelow (p : Path) : IO (List (FileName × Listing)) := do
  let entries ← (← fileAt p).readDir
  entries.toList.mapM fun entry => do
    let name := Text.utf8 entry.fileName
    match (← entry.path.symlinkMetadata).type with
    | .dir => pure (name, .directory (← listBelow (p.join ⟨name⟩)))
    | .symlink => pure (name, .link)
    | _ => pure (name, .file)

/-- The rights that three octal digits give. -/
def rightsOf (mode : Nat) : IO.FileRight :=
  let right (digit : Nat) : IO.AccessRight :=
    ⟨digit / 4 % 2 = 1, digit / 2 % 2 = 1, digit % 2 = 1⟩
  ⟨right (mode / 64), right (mode / 8), right mode⟩

/-- Makes a directory for one user, under a new name with a start. -/
def makePrivate (parent : Path) (start : String) : IO Path := do
  let p := parent.join ⟨Disk.numberedName start (← IO.rand 0 (10 ^ Disk.drawnLength - 1))⟩
  IO.FS.createDir p.display
  IO.setAccessRights p.display (rightsOf privateMode)
  pure p

/-- Removes what stands at a path, with everything below it. -/
def removeAll (p : Path) : IO Unit := do
  match (← (← fileAt p).symlinkMetadata).type with
  | .dir => IO.FS.removeDirAll p.display
  | _ => IO.FS.removeFile p.display

def Request.perform : (r : Request) → IO r.Answer
  | .stat p => attempt do pure (NodeKind.ofType (← (← fileAt p).metadata).type)
  | .linkStat p => attempt do pure (NodeKind.ofType (← (← fileAt p).symlinkMetadata).type)
  | .read p => attempt (IO.FS.readBinFile p.display)
  | .list p => attempt (listBelow p)
  | .makeDirectory p => attempt (IO.FS.createDir p.display)
  | .makePrivateDirectory parent start => attempt (makePrivate parent start)
  | .setMode p mode => attempt (IO.setAccessRights p.display (rightsOf mode))
  | .write p bytes => attempt (IO.FS.writeBinFile p.display bytes)
  | .rename source target => attempt (IO.FS.rename source.display target.display)
  | .remove p => attempt (removeAll p)

def Program.perform {α : Type} : Program α → IO α
  | .done a => pure a
  | .call r next => do (next (← r.perform)).perform

def currentEnvironment : IO Environment := do
  let bytes ← IO.FS.readBinFile "/proc/self/environ"
  let text := (String.fromUTF8? bytes).getD ""
  pure ⟨(text.splitOn "\u0000").map fun entry =>
    (.ofList (entry.toList.takeWhile (· ≠ '=')), .ofList ((entry.toList.dropWhile (· ≠ '=')).drop 1))⟩

/-- The present time, which is that of the entry of this very process. -/
def currentTime : IO Timestamp := do
  let time := (← (← fileAt (.ofString "/proc/self")).metadata).modified
  pure (.ofSeconds time.sec.toNat time.nsec.toNat)

end SuiteSplit

open SuiteSplit in
def main (args : List String) : IO UInt32 := do
  let ending ← (perform (← currentEnvironment) (← currentTime) args).perform
  IO.print ending.output
  for warning in ending.warnings do
    IO.eprintln warning
  IO.eprint ending.complaint
  pure ending.code.toUInt32

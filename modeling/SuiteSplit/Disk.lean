import SuiteSplit.Disk.Walk

/-!
A disk and the calls on it.

A call either does the whole of what it says or fails and changes nothing.
-/

namespace SuiteSplit

/-- The tree of a disk, and the directory that relative paths start from. -/
structure Disk where
  root : Node
  here : Location

namespace Disk

/-- The result of a call that changes the disk. -/
abbrev Change (α : Type) := Except DiskError (α × Disk)

/-- A disk whose one directory is the current one. -/
def blank : Disk :=
  let here : FileName := Text.utf8 "work"
  ⟨.directory directoryMode [(here, .emptyDirectory)], [here]⟩

/-- The place that a path starts from, unless no call accepts the path. A relative path leads nowhere
once the current directory has been taken away. -/
def start (d : Disk) (p : Path) : Except DiskError Location :=
  match p.fault? with
  | some e => .error e
  | none =>
    match d.root.at? (p.origin d.here) with
    | some (.directory ..) => .ok (p.origin d.here)
    | _ => .error .notFound

def walk (d : Disk) (aim : Aim) (p : Path) : Except DiskError Spot :=
  match d.start p with
  | .error e => .error e
  | .ok here => d.root.walk aim maxLinks here p.allHops

def find (d : Disk) (aim : Aim) (p : Path) : Except DiskError (Location × Node) :=
  match d.walk aim p with
  | .error e => .error e
  | .ok (.found location n) => .ok (location, n)
  | .ok (.vacant _ _) => .error .notFound

/-- The directory that a path names an entry of, and the name of the entry. There is no name for the
root and for paths that end with dots. -/
def entry (d : Disk) (p : Path) : Except DiskError (Location × Option FileName) :=
  match d.start p with
  | .error e => .error e
  | .ok here =>
    match p.hops.getLast? with
    | none => .ok ([], none)
    | some name =>
      match d.root.walk .goal maxLinks here (p.hops.dropLast ++ [Path.inward]) with
      | .error e => .error e
      | .ok (.found location (.directory ..)) =>
        if name = Path.dot ∨ name = Path.dots then .ok (location, none)
        else if maxNameLength < name.length then .error .nameTooLong
        else .ok (location, some name)
      | .ok _ => .error .notDirectory

/-- The disk with a node at a location, or with none. -/
def put (d : Disk) (location : Location) (v : Option Node) : Disk :=
  { d with root := d.root.put v location }

/-! ## Calls that only look -/

/-- The kind of what stands at a path, at the end of links. -/
def stat (d : Disk) (p : Path) : Except DiskError NodeKind := (d.find .goal p).map (·.2.kind)

/-- The kind of what stands at a path, also of a link. -/
def linkStat (d : Disk) (p : Path) : Except DiskError NodeKind := (d.find .entry p).map (·.2.kind)

/-- The bytes of a file. -/
def read (d : Disk) (p : Path) : Except DiskError ByteArray :=
  match d.find .goal p with
  | .error e => .error e
  | .ok (_, .file _ bytes) => .ok bytes
  | .ok _ => .error .isDirectory

def list (d : Disk) (p : Path) : Except DiskError (List (FileName × Listing)) :=
  match d.find .goal p with
  | .error e => .error e
  | .ok (_, n) =>
    match n.listing with
    | .directory entries => .ok entries
    | _ => .error .notDirectory

/-! ## Calls that change the disk -/

def create (d : Disk) (p : Path) (n : Node) : Change Unit :=
  match d.entry p with
  | .error e => .error e
  | .ok (_, none) => .error .occupied
  | .ok (directory, some name) =>
    match d.root.at? (directory ++ [name]) with
    | some _ => .error .occupied
    | none => .ok ((), d.put (directory ++ [name]) (some n))

def makeDirectory (d : Disk) (p : Path) : Change Unit := d.create p .emptyDirectory

/-- Makes a link. A slash behind its own path asks for a directory, which a link is not. -/
def makeLink (d : Disk) (p target : Path) : Change Unit :=
  match target.fault?, d.create p (.link target) with
  | some e, _ => .error e
  | none, .error e => .error e
  | none, .ok linked => if p.asksDirectory then .error .notFound else .ok linked

/-- Characters that are drawn for the name of a directory for one user. -/
def drawnLength : Nat := 6

/-- A name with a start and drawn characters. -/
def drawnName (start : String) (characters : List Char) : FileName :=
  Text.utf8 (start ++ String.ofList characters)

/-- The name with a start and the digits of a number. -/
def numberedName (start : String) (i : Nat) : FileName :=
  drawnName start ((Nat.toDigits 10 i).leftpad drawnLength '0')

/-- The first name with a start and a number that a directory does not have. -/
def freshName (start : String) (entries : List (FileName × Node)) : FileName :=
  let names := (List.range (min (entries.length + 1) (10 ^ drawnLength))).map (numberedName start)
  (names.find? fun name => (entries.lookup name).isNone).getD (numberedName start 0)

/-- Makes a directory for one user under a given name. -/
def makePrivateUnder (d : Disk) (parent : Path) (name : FileName) : Change Path :=
  let p := parent.join ⟨name⟩
  (d.create p (.directory privateMode [])).map fun (_, d) => (p, d)

/-- Makes a directory for one user under a new name with a start. -/
def makePrivateDirectory (d : Disk) (parent : Path) (start : String) : Change Path :=
  match d.find .goal parent with
  | .error e => .error e
  | .ok (_, n) => d.makePrivateUnder parent (freshName start n.entries)

def setMode (d : Disk) (p : Path) (mode : Nat) : Change Unit :=
  (d.find .goal p).map fun (location, n) => ((), d.put location (some (n.withMode mode)))

/-- Writes a file, a new one or in place of the old bytes. -/
def write (d : Disk) (p : Path) (bytes : ByteArray) : Change Unit :=
  match d.walk .file p with
  | .error e => .error e
  | .ok (.vacant directory name) => .ok ((), d.put (directory ++ [name]) (some (.file fileMode bytes)))
  | .ok (.found location (.file mode _)) => .ok ((), d.put location (some (.file mode bytes)))
  | .ok (.found ..) => .error .isDirectory

def inside (inner outer : Location) : Bool := outer.isPrefixOf inner && inner ≠ outer

/-- Why a node cannot take the place of another one. -/
def replaceFault? (n : Node) : Option Node → Option DiskError
  | none => none
  | some old =>
    match n.isDirectory, old.isDirectory with
    | true, false => some .notDirectory
    | false, true => some .isDirectory
    | true, true => if old.entries.isEmpty then none else some .notEmpty
    | false, false => none

/-- Moves what stands at a path to another one, in place of what stands there. -/
def rename (d : Disk) (source target : Path) : Change Unit :=
  match d.entry source, d.entry target with
  | .error e, _ => .error e
  | _, .error e => .error e
  | .ok (_, none), _ => .error .busy
  | _, .ok (_, none) => .error .busy
  | .ok (fromDirectory, some fromName), .ok (toDirectory, some toName) =>
    let old := fromDirectory ++ [fromName]
    let new := toDirectory ++ [toName]
    match d.root.at? old with
    | none => .error .notFound
    | some n =>
      if !n.isDirectory ∧ (source.asksDirectory ∨ target.asksDirectory) then .error .notDirectory
      else if inside new old then .error .invalid
      else if inside old new then .error .notEmpty
      else if old = new then .ok ((), d)
      else
        match replaceFault? n (d.root.at? new) with
        | some e => .error e
        | none => .ok ((), (d.put old none).put new (some n))

/-- Removes what stands at a path, with everything below it. A link is removed itself. -/
def remove (d : Disk) (p : Path) : Change Unit :=
  match d.find .entry p, d.entry p with
  | .error e, _ => .error e
  | _, .error e => .error e
  | _, .ok (_, none) => .error .invalid
  | .ok _, .ok (directory, some name) => .ok ((), d.put (directory ++ [name]) none)

end Disk

end SuiteSplit

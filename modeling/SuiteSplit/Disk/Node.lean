import SuiteSplit.Path

/-!
What stands on a disk: files, symbolic links and directories, as a tree.
-/

namespace SuiteSplit

/-- A file with its permissions and bytes, a link with the path that it leads to, or a directory with
its permissions and entries. -/
inductive Node
  | file (mode : Nat) (bytes : ByteArray)
  | link (target : Path)
  | directory (mode : Nat) (entries : List (FileName × Node))

/-- What a call tells about a node without its content. -/
inductive NodeKind
  | file
  | link
  | directory
deriving DecidableEq, Repr

/-- The names below a directory, and what stands there. -/
inductive Listing
  | file
  | link
  | directory (entries : List (FileName × Listing))
deriving Repr

/-- A place on a disk: the names of the directories on the way from the root, and its own. -/
abbrev Location := List FileName

/-- Permissions of new directories and files, and of new directories for one user only. -/
def directoryMode : Nat := 0o755
def fileMode : Nat := 0o644
def privateMode : Nat := 0o700

namespace Node

def emptyDirectory : Node := directory directoryMode []

def kind : Node → NodeKind
  | file .. => .file
  | link .. => .link
  | directory .. => .directory

def isDirectory : Node → Bool
  | directory .. => true
  | _ => false

/-- The entries of a directory; other nodes have none. -/
def entries : Node → List (FileName × Node)
  | directory _ entries => entries
  | _ => []

def withMode (mode : Nat) : Node → Node
  | file _ bytes => file mode bytes
  | link target => link target
  | directory _ entries => directory mode entries

def mode : Node → Nat
  | file mode _ => mode
  | link _ => 0o777
  | directory mode _ => mode

/-- The node at a location below. Links are not followed. -/
def at? : Node → Location → Option Node
  | n, [] => some n
  | n, name :: rest => (n.entries.lookup name).bind (at? · rest)

/-- The entries with a node for a name, or without the name. -/
def assign (name : FileName) (v : Option Node) (entries : List (FileName × Node)) :
    List (FileName × Node) :=
  match v with
  | none => entries.filter (·.1 ≠ name)
  | some n =>
    match entries.lookup name with
    | none => entries ++ [(name, n)]
    | some _ => entries.map fun (k, old) => (k, if k = name then n else old)

/-- The tree with a node at a location whose directory is there, or with none. -/
def put (v : Option Node) : Location → Node → Node
  | [], n => v.getD n
  | [name], directory mode entries => directory mode (assign name v entries)
  | name :: rest, directory mode entries =>
    match entries.lookup name with
    | none => directory mode entries
    | some inner => directory mode (assign name (some (put v rest inner)) entries)
  | _, n => n

mutual

def listing : Node → Listing
  | file .. => .file
  | link .. => .link
  | directory _ entries => .directory (listEntries entries)

def listEntries : List (FileName × Node) → List (FileName × Listing)
  | [] => []
  | (name, n) :: rest => (name, n.listing) :: listEntries rest

end

end Node

end SuiteSplit

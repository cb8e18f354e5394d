import SuiteSplit.Disk.Error
import SuiteSplit.Disk.Node

/-!
Walking a path on a disk.

A walk starts at the root or in a directory and takes the segments of the path one by one. A link is
replaced by the path that it leads to, at most forty times; whether a link at the end is followed
depends on the aim. A slash at the end is one more step, into the directory. Where the last name is
missing the walk ends in a vacant spot.
-/

namespace SuiteSplit

/-- Links that a walk follows. -/
def maxLinks : Nat := 40

/-- Bytes in the longest name, and in paths that are too long. -/
def maxNameLength : Nat := 255
def pathLimit : Nat := 4096

namespace Path

def hops (p : Path) : List FileName := (Text.splitOn slash p.bytes).filter (· ≠ [])

/-- A slash at the end asks for a directory. -/
def asksDirectory (p : Path) : Bool := p.bytes.getLast? = some slash

/-- The place that a path starts from, for a program in a directory. -/
def origin (here : Location) (p : Path) : Location := if p.isAbsolute then [] else here

/-- The step into a directory that a slash at the end stands for. -/
def inward : FileName := []

/-- The segments of a walk, with the step into the directory. -/
def allHops (p : Path) : List FileName := p.hops ++ if p.asksDirectory then [inward] else []

/-- Paths that no call accepts. -/
def fault? (p : Path) : Option DiskError :=
  if p.bytes.contains 0 then some .zeroInPath
  else if p.bytes = [] then some .notFound
  else if pathLimit ≤ p.bytes.length then some .nameTooLong
  else none

end Path

/-- What a walk looks for: what stands at the path itself, what stands at the end of links, or a file
to write. -/
inductive Aim
  | entry
  | goal
  | file
deriving DecidableEq, Repr

/-- Where a walk ends. -/
inductive Spot
  | found (location : Location) (node : Node)
  | vacant (directory : Location) (name : FileName)

namespace Node

/-- Walks from a directory on the tree, with a number of links that may still be followed. -/
def walk (root : Node) (aim : Aim) (links : Nat) (here : Location)
    (todo : List FileName) : Except DiskError Spot :=
  match todo with
  | [] =>
    match root.at? here with
    | some n => .ok (.found here n)
    | none => .error .notFound
  | name :: rest =>
    if name = Path.inward ∨ name = Path.dot then walk root aim links here rest
    else if name = Path.dots then walk root aim links here.dropLast rest
    else if aim = .file ∧ rest = [Path.inward] then .error .isDirectory
    else if maxNameLength < name.length then .error .nameTooLong
    else
      match root.at? (here ++ [name]) with
      | none => if rest = [] then .ok (.vacant here name) else .error .notFound
      | some (.file mode bytes) =>
        if rest = [] then .ok (.found (here ++ [name]) (.file mode bytes)) else .error .notDirectory
      | some (.directory ..) => walk root aim links (here ++ [name]) rest
      | some (.link target) =>
        if rest = [] ∧ aim = .entry then .ok (.found (here ++ [name]) (.link target))
        else
          match links with
          | 0 => .error .tooManyLinks
          | links + 1 =>
            walk root aim links (target.origin here) (target.allHops ++ rest)
termination_by (links, todo.length)

end Node

end SuiteSplit

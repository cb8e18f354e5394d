import SuiteSplit.Text.Cut
import SuiteSplit.Text.Utf8

/-!
Paths of files.

A path is a string of bytes that slashes divide into segments. Empty segments and single dots say
nothing, except for a dot in front; a slash in front makes the path absolute. What is taken from a
path keeps its bytes, so that doubled slashes inside of it stay.
-/

namespace SuiteSplit

/-- The name of a file in its directory. -/
abbrev FileName := List UInt8

/-- A path as it is written. -/
structure Path where
  bytes : List UInt8
deriving DecidableEq, Repr, Inhabited

namespace Path

def slash : UInt8 := 0x2F

/-- The name of a directory inside of itself. -/
def dot : FileName := [0x2E]

/-- The name of the directory around a directory. -/
def dots : FileName := [0x2E, 0x2E]

def ofString (s : String) : Path := ⟨Text.utf8 s⟩

/-- The path as text; none if its bytes are no text. -/
def toText? (p : Path) : Option String := Text.ofUtf8? p.bytes

def display (p : Path) : String := .ofList (Text.shown p.bytes)

def isAbsolute (p : Path) : Bool := p.bytes.head? = some slash

/-- A slash in front, or a dot that is the first segment. -/
def front (p : Path) : List UInt8 :=
  if p.isAbsolute then [slash]
  else if p.bytes = dot ∨ p.bytes.take 2 = dot ++ [slash] then dot
  else []

def isIdle (segment : FileName) : Bool := segment.isEmpty || segment = dot

/-- Drops segments that say nothing from the end. -/
def dropIdle (segments : List FileName) : List FileName :=
  (segments.reverse.dropWhile isIdle).reverse

/-- The segments behind the front, up to the last one that says something. -/
def segments (p : Path) : List FileName :=
  dropIdle (Text.splitOn slash (p.bytes.drop p.front.length))

/-- The segments behind the front that say something. -/
def names (p : Path) : List FileName := p.segments.filter fun s => !isIdle s

/-- The last segment, if it is the name of something in its directory. -/
def fileName? (p : Path) : Option FileName := p.segments.getLast?.filter (· ≠ dots)

/-- The path without its last segment. The root and the empty path have none to take away. -/
def parent? (p : Path) : Option Path :=
  if p.segments = [] then if p.front = dot then some ⟨[]⟩ else none
  else some ⟨p.front ++ [slash].intercalate (dropIdle p.segments.dropLast)⟩

def join (directory p : Path) : Path :=
  if p.isAbsolute ∨ directory.bytes = [] then p
  else if directory.bytes.getLast? = some slash then ⟨directory.bytes ++ p.bytes⟩
  else ⟨directory.bytes ++ slash :: p.bytes⟩

/-- A segment with its rank: the root, a dot in front, two dots, a name. -/
def rankedSegments (p : Path) : List (Nat × FileName) :=
  (if p.front = [slash] then [(0, [])] else if p.front = dot then [(1, [])] else []) ++
    p.names.map fun s => if s = dots then (2, []) else (3, s)

/-- Paths compare segment by segment. -/
def precedes (p q : Path) : Bool :=
  (compareOfLessAndEq (p.rankedSegments.map fun (rank, s) => rank :: s.map UInt8.toNat)
    (q.rankedSegments.map fun (rank, s) => rank :: s.map UInt8.toNat)).isLE

end Path

end SuiteSplit

import SuiteSplit.Number.Digits
import SuiteSplit.Text.Cut

/-!
Sets of characters as ranges of code points.

A set is a list of ranges. The operations of set algebra go through the complement, which puts the
ranges in order first; `contains` asks each range and so holds for any list.
-/

namespace SuiteSplit

/-- The code points from `first` to `last`. -/
structure CodeRange where
  first : Nat
  last : Nat
deriving DecidableEq, Repr, Inhabited

/-- A set of code points, the union of its ranges. -/
structure CodeSet where
  ranges : List CodeRange
deriving DecidableEq, Repr, Inhabited

namespace CodeSet

def lastCode : Nat := 0x10FFFF

def empty : CodeSet := ⟨[]⟩

/-- The code points from `first` to `last`. -/
def range (first last : Nat) : CodeSet := ⟨[⟨first, last⟩]⟩

def singleton (c : Char) : CodeSet := range c.toNat c.toNat

def ofChars (cs : List Char) : CodeSet := ⟨cs.map fun c => ⟨c.toNat, c.toNat⟩⟩

def containsCode (s : CodeSet) (n : Nat) : Bool :=
  s.ranges.any fun r => r.first ≤ n && n ≤ r.last

def contains (s : CodeSet) (c : Char) : Bool := s.containsCode c.toNat

def union (s t : CodeSet) : CodeSet := ⟨s.ranges ++ t.ranges⟩

/-- The gaps between ranges that are ordered by their first code points, from `next` on. -/
def gaps (next : Nat) : List CodeRange → List CodeRange
  | [] => if next ≤ lastCode then [⟨next, lastCode⟩] else []
  | r :: rs =>
    if next < r.first then ⟨next, r.first - 1⟩ :: gaps (r.last + 1) rs
    else gaps (max next (r.last + 1)) rs

def complement (s : CodeSet) : CodeSet :=
  ⟨gaps 0 (s.ranges.mergeSort fun a b => a.first ≤ b.first)⟩

def inter (s t : CodeSet) : CodeSet := (s.complement.union t.complement).complement

def diff (s t : CodeSet) : CodeSet := (s.complement.union t).complement

/-- The code points in exactly one of the sets. -/
def symmDiff (s t : CodeSet) : CodeSet := (s.diff t).union (t.diff s)

/-- The same set with ordered ranges that do not touch. -/
def normalize (s : CodeSet) : CodeSet := s.complement.complement

/-! ## Reading tables -/

/-- Reads `first-last` or a single code point. -/
def readRange? (cs : List Char) : Option CodeRange :=
  match Text.splitOn '-' cs with
  | [a] => (hexNumber? a).map fun n => ⟨n, n⟩
  | [a, b] => (hexNumber? a).bind fun m => (hexNumber? b).map fun n => ⟨m, n⟩
  | _ => none

/-- The set with the given ranges, written in hexadecimal with a blank between two of them. -/
def ofTable (lines : List String) : CodeSet :=
  ⟨lines.flatMap fun line => (Text.splitOn ' ' line.toList).filterMap readRange?⟩

end CodeSet

end SuiteSplit

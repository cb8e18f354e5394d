import SuiteSplit.Text.CodeSet

/-!
Patterns for file names: regular expressions over characters.

A pattern matches between two places of a text. What a group captures and which of several matches is
preferred do not matter for whether there is a match, so neither is part of a pattern.
-/

namespace SuiteSplit

/-- The characters around a place of a text; none at an end of the text. -/
structure Surroundings where
  before : Option Char
  after : Option Char
deriving DecidableEq, Repr

/-- What a place of a text can be asked for. Word characters are those of a given set. -/
inductive Assertion
  | textStart
  | textEnd
  | lineStart
  | lineEnd
  /-- As `lineStart`, with a carriage return as the end of a line, also in front of a line feed. -/
  | lineStartCr
  | lineEndCr
  | wordBoundary (word : CodeSet)
  | noWordBoundary (word : CodeSet)
  | wordStart (word : CodeSet)
  | wordEnd (word : CodeSet)
  | noWordBefore (word : CodeSet)
  | noWordAfter (word : CodeSet)
deriving DecidableEq, Repr

namespace Assertion

def inSet (word : CodeSet) (c : Option Char) : Bool := c.any word.contains

def holds (a : Assertion) (s : Surroundings) : Bool :=
  match a with
  | textStart => s.before.isNone
  | textEnd => s.after.isNone
  | lineStart => s.before.isNone || s.before = some '\n'
  | lineEnd => s.after.isNone || s.after = some '\n'
  | lineStartCr =>
    s.before.isNone || s.before = some '\n' || (s.before = some '\r' && s.after ≠ some '\n')
  | lineEndCr =>
    s.after.isNone || s.after = some '\r' || (s.after = some '\n' && s.before ≠ some '\r')
  | wordBoundary word => inSet word s.before != inSet word s.after
  | noWordBoundary word => inSet word s.before == inSet word s.after
  | wordStart word => !inSet word s.before && inSet word s.after
  | wordEnd word => inSet word s.before && !inSet word s.after
  | noWordBefore word => !inSet word s.before
  | noWordAfter word => !inSet word s.after

end Assertion

/-- A regular expression. -/
inductive Pattern
  | empty
  | one (set : CodeSet)
  | assert (assertion : Assertion)
  | seq (first second : Pattern)
  | alt (first second : Pattern)
  /-- At least `least` times and, if there is a bound, at most `most` times. -/
  | times (inner : Pattern) (least : Nat) (most : Option Nat)
deriving Repr

namespace Pattern

/-- For each place of a text, whether it was reached. -/
abbrev Row := List Bool

/-- The surroundings of the places of a text, behind a character. -/
def surroundingsFrom (before : Option Char) : List Char → List Surroundings
  | [] => [⟨before, none⟩]
  | c :: cs => ⟨before, some c⟩ :: surroundingsFrom (some c) cs

def iterate (step : Row → Row) : Nat → Row → Row
  | 0, row => row
  | n + 1, row => iterate step n (step row)

/-- The places that are reached in at most a number of steps. -/
def within (step : Row → Row) : Nat → Row → Row
  | 0, row => row
  | n + 1, row =>
    let next := List.zipWith or row (step row)
    if next = row then row else within step n next

/-- The places at which a match can end that starts at a place of the row. With one place more than
the text has characters, a match that repeats more often has a repetition that takes nothing, so
that counts above the number of places make no difference. -/
def ends (text : List Char) : Pattern → Row → Row
  | empty, row => row
  | one set, row => false :: List.zipWith (fun reached c => reached && set.contains c) row text
  | assert a, row =>
    List.zipWith (fun reached s => reached && a.holds s) row (surroundingsFrom none text)
  | seq p q, row => ends text q (ends text p row)
  | alt p q, row => List.zipWith or (ends text p row) (ends text q row)
  | times p least most, row =>
    let places := text.length + 1
    let row := iterate (ends text p) (min least places) row
    match most with
    | none => within (ends text p) places row
    | some most => within (ends text p) (min (most - least) places) row

/-- The pattern matches somewhere in the text. -/
def matchesIn (p : Pattern) (text : List Char) : Bool :=
  (p.ends text (List.replicate (text.length + 1) true)).any id

/-- The pattern takes no character. -/
def isWidthless : Pattern → Bool
  | empty => true
  | one _ => false
  | assert _ => true
  | seq p q => p.isWidthless && q.isWidthless
  | alt p q => p.isWidthless && q.isWidthless
  | times p _ most => p.isWidthless || most = some 0

/-- The size of the pattern in bytes when it is written out with every repetition. -/
def size : Pattern → Nat
  | empty => 0
  | one ⟨[r]⟩ => if r.first = r.last then 32 * (Char.ofNat r.first).utf8Size else 60
  | one set => 32 + 28 * set.ranges.length
  | assert _ => 32
  | seq p q => p.size + q.size
  | alt p q => 40 + p.size + q.size
  | times p least most =>
    if p.isWidthless then p.size
    else
      match most with
      | none => max least 1 * p.size + 40
      | some most => most * p.size + (most - least) * 40

end Pattern

end SuiteSplit

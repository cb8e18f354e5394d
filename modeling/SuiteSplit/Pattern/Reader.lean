import SuiteSplit.Number.Numeral
import SuiteSplit.Pattern
import SuiteSplit.Pattern.Named
import SuiteSplit.Text.CaseFold
import SuiteSplit.Text.Cut

/-!
Reading patterns.

Flags that are set in the middle of a group hold up to its end. Sets are worked out as they are read:
with the flag for it they are closed under case, before a set operation and before a negation.
-/

namespace SuiteSplit.Pattern

/-- How the text of a pattern is read. -/
structure Flags where
  ignoreCase : Bool := false
  multiLine : Bool := false
  dotAll : Bool := false
  unicode : Bool := true
  carriageReturn : Bool := false
  spaced : Bool := false
deriving DecidableEq, Repr

namespace Flags

/-- The flags with the one of a letter set; none for a letter without a flag. The flag `U` swaps
which match is preferred and so changes nothing. -/
def set? (f : Flags) (letter : Char) (value : Bool) : Option Flags :=
  match letter with
  | 'i' => some { f with ignoreCase := value }
  | 'm' => some { f with multiLine := value }
  | 's' => some { f with dotAll := value }
  | 'U' => some f
  | 'u' => some { f with unicode := value }
  | 'R' => some { f with carriageReturn := value }
  | 'x' => some { f with spaced := value }
  | _ => none

def word (f : Flags) : CodeSet := if f.unicode then Text.wordSet else Text.asciiWordSet

/-- All characters, or the codes of single bytes without the flag for Unicode. -/
def everything (f : Flags) : CodeSet := if f.unicode then anyCode else .range 0 0xFF

/-- Adds to a set the ASCII letters that differ from one of its members in case only. -/
def closeUnderAsciiCase (s : CodeSet) : CodeSet :=
  let letters := (List.range 26).filter fun i =>
    s.containsCode ('A'.toNat + i) || s.containsCode ('a'.toNat + i)
  s.union ⟨letters.flatMap fun i =>
    [⟨'A'.toNat + i, 'A'.toNat + i⟩, ⟨'a'.toNat + i, 'a'.toNat + i⟩]⟩

/-- Closes a set under case if case does not count. -/
def fold (f : Flags) (s : CodeSet) : CodeSet :=
  if !f.ignoreCase then s
  else if f.unicode then Text.closeUnderCase s
  else closeUnderAsciiCase s

/-- The set or what is outside of it. -/
def negate (f : Flags) (negated : Bool) (s : CodeSet) : CodeSet :=
  if negated then f.everything.diff s else s

/-- Without the flag for Unicode a set must not go beyond ASCII. -/
def admits (f : Flags) (s : CodeSet) : Bool :=
  f.unicode || (s.normalize.ranges.all fun r => r.last < 0x80)

/-- The assertion of a line start, or of a line end. -/
def lineStart (f : Flags) : Assertion :=
  if !f.multiLine then .textStart else if f.carriageReturn then .lineStartCr else .lineStart

def lineEnd (f : Flags) : Assertion :=
  if !f.multiLine then .textEnd else if f.carriageReturn then .lineEndCr else .lineEnd

/-- The characters of the dot. Bytes of their own could split a character, so it needs Unicode. -/
def dot? (f : Flags) : Option CodeSet :=
  let ends := if f.carriageReturn then ['\r', '\n'] else ['\n']
  if !f.unicode then none
  else if f.dotAll then some anyCode
  else some (anyCode.diff (.ofChars ends))

end Flags

/-- Drops white space and comments; inside a comment everything goes up to the end of its line. -/
def dropSpace (inComment : Bool) : List Char → List Char
  | [] => []
  | c :: cs =>
    if inComment then dropSpace (c ≠ '\n') cs
    else if Text.isWhiteSpace c then dropSpace false cs
    else if c = '#' then dropSpace true cs
    else c :: cs

/-- Drops white space and comments if they do not count. -/
def Flags.skip (f : Flags) (cs : List Char) : List Char :=
  if f.spaced then dropSpace false cs else cs

/-! ## Escapes -/

/-- What stands for itself or behind a backslash. -/
inductive Primitive
  /-- A character; one that is given as a byte counts as a byte without Unicode. -/
  | literal (c : Char) (asByte : Bool)
  | set (s : CodeSet)
  | assertion (a : Assertion)
deriving Repr

/-- Reads characters of a class, with what does not count between them. -/
def readRun (f : Flags) (p : Char → Bool) : Nat → List Char → List Char × List Char
  | 0, cs => ([], cs)
  | steps + 1, cs =>
    match cs with
    | c :: rest =>
      if p c then
        let (run, rest) := readRun f p steps (f.skip rest)
        (c :: run, rest)
      else ([], cs)
    | [] => ([], [])

def isHexDigit (c : Char) : Bool := (hexNumber? [c]).isSome

def charOfHex? (digits : List Char) : Option Char :=
  (hexNumber? digits).bind fun n => if n.isValidChar then some (.ofNat n) else none

/-- Reads a code of a number of digits, or of any number of digits between braces. -/
def readHex? (f : Flags) (count : Nat) (cs : List Char) : Option (Char × List Char) :=
  match f.skip cs with
  | '\x7b' :: cs =>
    let (digits, rest) := readRun f isHexDigit cs.length (f.skip cs)
    match rest with
    | '\x7d' :: rest => (charOfHex? digits).map fun c => (c, f.skip rest)
    | _ => none
  | cs =>
    let (digits, rest) := readRun f isHexDigit count cs
    if digits.length = count then (charOfHex? digits).map fun c => (c, rest) else none

/-- The set of what stands between the braces of a named set. -/
def setOfName? (name : List Char) : Option CodeSet :=
  let split (mark : Char) : Option (List Char × List Char) :=
    if name.contains mark then
      some (name.takeWhile (· ≠ mark), (name.dropWhile (· ≠ mark)).drop 1)
    else none
  match Text.cutAt ['!', '='] name with
  | some (property, value) => valued? property value
  | none =>
    match (split ':').orElse fun _ => split '=' with
    | some (property, value) => valued? property value
    | none => named? name

/-- Reads a named set: one letter, or a name between braces. -/
def readNamedSet? (f : Flags) (negated : Bool) (cs : List Char) :
    Option (CodeSet × List Char) :=
  let finish (name rest : List Char) : Option (CodeSet × List Char) :=
    if !f.unicode then none
    else (setOfName? name).map fun s => (f.negate negated (f.fold s), rest)
  match f.skip cs with
  | [] => none
  | '\\' :: _ => none
  | '\x7b' :: cs =>
    let (name, rest) := readRun f (· ≠ '\x7d') cs.length (f.skip cs)
    match rest with
    | [] => none
    | _ :: rest => finish name rest
  | c :: cs => finish [c] (f.skip cs)

/-- Reads the kind of a word boundary between braces. Without a letter or a hyphen behind the brace
it is none. -/
def readBoundary? (f : Flags) (cs : List Char) : Option (Assertion × List Char) :=
  let inName (c : Char) : Bool := c.isAlpha || c = '-'
  match cs with
  | '\x7b' :: inside =>
    match f.skip inside with
    | [] => none
    | c :: behind =>
      if inName c then
        let (name, rest) := readRun f inName (c :: behind).length (c :: behind)
        match rest with
        | '\x7d' :: rest =>
          match String.ofList name with
          | "start" => some (.wordStart f.word, rest)
          | "end" => some (.wordEnd f.word, rest)
          | "start-half" => some (.noWordBefore f.word, rest)
          | "end-half" => some (.noWordAfter f.word, rest)
          | _ => none
        | _ => none
      else some (.wordBoundary f.word, cs)
  | _ => some (.wordBoundary f.word, cs)

/-- The set of digits, white space or word characters. -/
def classSet (f : Flags) (letter : Char) : CodeSet :=
  if letter = 'd' then
    if f.unicode then Text.Category.decimalNumberSet else .range '0'.toNat '9'.toNat
  else if letter = 's' then
    if f.unicode then Text.whiteSpace else (CodeSet.range 0x09 0x0D).union (.singleton ' ')
  else f.word

/-- Characters of ASCII that have no meaning behind a backslash and stand for themselves. -/
def standsForItself (c : Char) : Bool :=
  c.toNat < 0x80 && !c.isAlphanum && c ≠ '<' && c ≠ '>'

/-- Reads what stands behind a backslash. -/
def readEscape? (f : Flags) : List Char → Option (Primitive × List Char)
  | [] => none
  | c :: cs =>
    let literal (d : Char) : Option (Primitive × List Char) := some (.literal d false, cs)
    let assertion (a : Assertion) : Option (Primitive × List Char) := some (.assertion a, cs)
    let set (s : CodeSet) : Option (Primitive × List Char) :=
      if f.admits s then some (.set s, cs) else none
    if standsForItself c then literal c
    else
      match c with
      | 'a' => literal '\x07'
      | 'f' => literal '\x0c'
      | 't' => literal '\t'
      | 'n' => literal '\n'
      | 'r' => literal '\r'
      | 'v' => literal '\x0b'
      | 'x' =>
        (readHex? f 2 cs).map fun (d, rest) =>
          (.literal d ((f.skip cs).head? ≠ some '\x7b'), rest)
      | 'u' => (readHex? f 4 cs).map fun (d, rest) => (.literal d false, rest)
      | 'U' => (readHex? f 8 cs).map fun (d, rest) => (.literal d false, rest)
      | 'p' => (readNamedSet? f false cs).map fun (s, rest) => (.set s, rest)
      | 'P' => (readNamedSet? f true cs).map fun (s, rest) => (.set s, rest)
      | 'd' => set (classSet f 'd')
      | 's' => set (classSet f 's')
      | 'w' => set (classSet f 'w')
      | 'D' => set (f.negate true (classSet f 'd'))
      | 'S' => set (f.negate true (classSet f 's'))
      | 'W' => set (f.negate true (classSet f 'w'))
      | 'A' => assertion .textStart
      | 'z' => assertion .textEnd
      | 'b' => (readBoundary? f cs).map fun (a, rest) => (.assertion a, rest)
      | 'B' => assertion (.noWordBoundary f.word)
      | '<' => assertion (.wordStart f.word)
      | '>' => assertion (.wordEnd f.word)
      | _ => none

/-! ## Sets in brackets -/

/-- The operations on sets. -/
inductive SetOp
  | inter
  | diff
  | symmDiff
deriving DecidableEq, Repr

/-- A set that was read, and how deep its text is nested. -/
structure SetPart where
  set : CodeSet
  depth : Nat
deriving Repr

/-- What was read of a set: the operand on the left and its operation, if any, and the members that
stand behind it, with their number. -/
structure SetProgress where
  left : Option (SetPart × SetOp)
  members : CodeSet
  count : Nat
  depth : Nat
deriving Repr

namespace SetProgress

def add (p : SetProgress) (member : SetPart) : SetProgress :=
  { p with
    members := p.members.union member.set, count := p.count + 1
    depth := max p.depth member.depth }

/-- The set so far: the operation applied to the operand and the members. -/
def value (f : Flags) (p : SetProgress) : SetPart :=
  let depth := if 1 < p.count then p.depth + 1 else p.depth
  match p.left with
  | none => ⟨p.members, depth⟩
  | some (left, op) =>
    let (a, b) := (f.fold left.set, f.fold p.members)
    let set := match op with
      | .inter => a.inter b
      | .diff => a.diff b
      | .symmDiff => a.symmDiff b
    ⟨set, max left.depth depth + 1⟩

end SetProgress

/-- Reads what can be one end of a range. -/
def readMember? (f : Flags) : List Char → Option (Primitive × List Char)
  | [] => none
  | '\\' :: cs => readEscape? f cs
  | c :: cs => some (.literal c false, cs)

/-- The code of a literal in a set. Without Unicode it is a byte. -/
def memberCode? (f : Flags) : Primitive → Option Nat
  | .literal c asByte =>
    if f.unicode ∨ c.toNat < 0x80 ∨ (asByte ∧ c.toNat ≤ 0xFF) then some c.toNat else none
  | _ => none

/-- The character behind a hyphen that decides whether the hyphen makes a range. -/
def peekSpaced (f : Flags) (cs : List Char) : Option Char :=
  if f.spaced then
    match cs.dropWhile Text.isWhiteSpace with
    | '#' :: rest => (rest.dropWhile Text.isWhiteSpace).head?
    | rest => rest.head?
  else cs.head?

/-- Reads a member or a range of members. -/
def readRange? (f : Flags) (cs : List Char) : Option (CodeSet × List Char) :=
  let single (p : Primitive) (rest : List Char) : Option (CodeSet × List Char) :=
    match p with
    | .set s => some (s, rest)
    | p => (memberCode? f p).map fun n => (.range n n, rest)
  (readMember? f cs).bind fun (first, cs) =>
    match f.skip cs with
    | [] => none
    | '-' :: behind =>
      let next := peekSpaced f behind
      if next = some ']' ∨ next = some '-' then single first ('-' :: behind)
      else
        (readMember? f (f.skip behind)).bind fun (last, rest) =>
          (memberCode? f first).bind fun a =>
            (memberCode? f last).bind fun b =>
              if a ≤ b then some (.range a b, rest) else none
    | rest => single first rest

/-- Reads a class of POSIX behind its bracket. -/
def readPosix? (f : Flags) : List Char → Option (CodeSet × List Char)
  | ':' :: cs =>
    let (negated, cs) := match cs with
      | '^' :: cs => (true, cs)
      | cs => (false, cs)
    match cs.dropWhile (· ≠ ':') with
    | ':' :: ']' :: rest =>
      (posix? (.ofList (cs.takeWhile (· ≠ ':')))).map fun s => (f.negate negated s, rest)
    | _ => none
  | _ => none

/-- Reads hyphens in front, which are members. -/
def readHyphens (f : Flags) (p : SetProgress) : Nat → List Char → SetProgress × List Char
  | 0, cs => (p, cs)
  | steps + 1, cs =>
    match cs with
    | '-' :: rest => readHyphens f (p.add ⟨.singleton '-', 0⟩) steps (f.skip rest)
    | _ => (p, cs)

/-- Reads the front of a set behind its bracket: the negation, hyphens, and a bracket that is the
first member. -/
def openSet (f : Flags) (cs : List Char) : Bool × SetProgress × List Char :=
  let cs := f.skip cs
  let (negated, cs) := match cs with
    | '^' :: rest => (true, f.skip rest)
    | _ => (false, cs)
  let (p, cs) := readHyphens f ⟨none, .empty, 0, 0⟩ cs.length cs
  match cs with
  | ']' :: rest =>
    if p.count = 0 then (negated, p.add ⟨.singleton ']', 0⟩, f.skip rest) else (negated, p, cs)
  | _ => (negated, p, cs)

/-- Reads a set up to its closing bracket, behind what was read of it, in a number of steps. -/
def readSet? (f : Flags) : Nat → Bool → SetProgress → List Char → Option (SetPart × List Char)
  | 0, _, _, _ => none
  | steps + 1, negated, p, cs =>
    let operate (op : SetOp) (rest : List Char) : Option (SetPart × List Char) :=
      readSet? f steps negated ⟨some (p.value f, op), .empty, 0, 0⟩ rest
    match f.skip cs with
    | [] => none
    | ']' :: rest =>
      let value := p.value f
      let set := f.negate negated (f.fold value.set)
      if f.admits set then some (⟨set.normalize, value.depth + 1⟩, rest) else none
    | '&' :: '&' :: rest => operate .inter rest
    | '-' :: '-' :: rest => operate .diff rest
    | '~' :: '~' :: rest => operate .symmDiff rest
    | '[' :: rest =>
      match readPosix? f rest with
      | some (s, rest) => readSet? f steps negated (p.add ⟨s, 0⟩) rest
      | none =>
        let (innerNegated, inner, rest) := openSet f rest
        (readSet? f steps innerNegated inner rest).bind fun (part, rest) =>
          readSet? f steps negated (p.add part) rest
    | cs =>
      (readRange? f cs).bind fun (s, rest) => readSet? f steps negated (p.add ⟨s, 0⟩) rest

/-! ## Groups -/

/-- What opens with a parenthesis. -/
inductive Opening
  /-- A group, with the flags inside of it and the names of groups so far. -/
  | group (flags : Flags) (names : List (List Char)) (rest : List Char)
  /-- Flags for the rest of the group around them. -/
  | settings (flags : Flags) (rest : List Char)

def inGroupName (isFirst : Bool) (c : Char) : Bool :=
  c = '_' ||
    (if isFirst then Text.alphabetic.contains c
    else c = '.' || c = '[' || c = ']' || Text.alphanumeric.contains c)

/-- Reads the name of a group up to its angle bracket. Names are not used twice. -/
def readGroupName? (names : List (List Char)) (cs : List Char) :
    Option (List Char × List Char) :=
  let name := cs.takeWhile (· ≠ '>')
  match name, cs.dropWhile (· ≠ '>') with
  | c :: more, _ :: rest =>
    if inGroupName true c ∧ more.all (inGroupName false) ∧ c :: more ∉ names then
      some (c :: more, rest)
    else none
  | _, _ => none

/-- Reads flag letters, no letter or hyphen twice, and a letter behind the hyphen. Gives the flags,
whether there were any letters, and what follows them. -/
def readFlags? (f : Flags) (seen : List Char) : List Char → Option (Flags × Bool × List Char)
  | [] => none
  | c :: cs =>
    if c = ':' ∨ c = ')' then
      if seen.head? = some '-' then none else some (f, !seen.isEmpty, c :: cs)
    else if seen.contains c then none
    else if c = '-' then readFlags? f (c :: seen) cs
    else (f.set? c (!seen.contains '-')).bind fun f => readFlags? f (c :: seen) cs

/-- Reads what stands behind an opening parenthesis. There is no looking ahead or behind. -/
def readOpening? (f : Flags) (names : List (List Char)) (cs : List Char) : Option Opening :=
  let named (cs : List Char) : Option Opening :=
    (readGroupName? names cs).map fun (name, rest) => .group f (name :: names) rest
  match f.skip cs with
  | '?' :: '=' :: _ => none
  | '?' :: '!' :: _ => none
  | '?' :: '<' :: '=' :: _ => none
  | '?' :: '<' :: '!' :: _ => none
  | '?' :: 'P' :: '<' :: rest => named rest
  | '?' :: '<' :: rest => named rest
  | '?' :: rest =>
    match readFlags? f [] rest with
    | some (g, _, ':' :: rest) => some (.group g names rest)
    | some (g, true, ')' :: rest) => some (.settings g rest)
    | _ => none
  | rest => some (.group f names rest)

/-! ## Expressions -/

/-- A part of an expression, and how deep its text is nested. Flags cannot be repeated. -/
structure Part where
  pattern : Pattern
  depth : Nat
  repeatable : Bool := true
deriving Repr

/-- Parts one after the other; they stand in reverse order. -/
def Part.sequence : List Part → Part
  | [] => ⟨.empty, 0, true⟩
  | [p] => p
  | last :: before =>
    ⟨before.foldl (fun behind p => .seq p.pattern behind) last.pattern,
      (last :: before).foldl (fun d p => max d p.depth) 0 + 1, true⟩

/-- Parts as alternatives; they stand in reverse order. -/
def Part.alternatives : List Part → Part
  | [] => ⟨.empty, 0, true⟩
  | [p] => p
  | last :: before =>
    ⟨before.foldl (fun behind p => .alt p.pattern behind) last.pattern,
      (last :: before).foldl (fun d p => max d p.depth) 0 + 1, true⟩

/-- The counts of repetitions fit 32 bits. -/
def countLimit : Nat := 2 ^ 32

/-- Reads a count, with white space around it. -/
def readCount? (f : Flags) (cs : List Char) : Option (Nat × List Char) :=
  let (digits, rest) := readRun f Char.isDigit cs.length (cs.dropWhile Text.isWhiteSpace)
  let n := natOfDigits digits
  if digits = [] ∨ countLimit ≤ n then none
  else some (n, f.skip (rest.dropWhile Text.isWhiteSpace))

/-- Reads the counts of a repetition behind its brace. -/
def readCounts? (f : Flags) (cs : List Char) : Option (Nat × Option Nat × List Char) :=
  (readCount? f (f.skip cs)).bind fun (least, cs) =>
    match cs with
    | '\x7d' :: rest => some (least, some least, rest)
    | ',' :: cs =>
      match f.skip cs with
      | '\x7d' :: rest => some (least, none, rest)
      | cs =>
        (readCount? f cs).bind fun (most, cs) =>
          match cs with
          | '\x7d' :: rest => if least ≤ most then some (least, some most, rest) else none
          | _ => none
    | _ => none

/-- Drops the question mark behind a repetition, which only says what match is preferred. -/
def dropLazy : List Char → List Char
  | '?' :: cs => cs
  | cs => cs

def repeatLast? (least : Nat) (most : Option Nat) : List Part → Option (List Part)
  | [] => none
  | p :: ps =>
    if p.repeatable then some (⟨.times p.pattern least most, p.depth + 1, true⟩ :: ps) else none

def literalPart? (f : Flags) (c : Char) (asByte : Bool) : Option Part :=
  if asByte ∧ !f.unicode ∧ 0x80 ≤ c.toNat then none
  else
    let set := if f.unicode ∨ c.toNat < 0x80 then f.fold (.singleton c) else .singleton c
    some ⟨.one set, 0, true⟩

/-- Reads a part that is no group, set or repetition. -/
def readPrimitive? (f : Flags) : List Char → Option (Part × List Char)
  | [] => none
  | '\\' :: cs =>
    (readEscape? f cs).bind fun (p, rest) =>
      match p with
      | .literal c asByte => (literalPart? f c asByte).map fun part => (part, rest)
      | .set s => some (⟨.one s, 0, true⟩, rest)
      | .assertion a => some (⟨.assert a, 0, true⟩, rest)
  | '.' :: cs => f.dot?.map fun s => (⟨.one s, 0, true⟩, cs)
  | '^' :: cs => some (⟨.assert f.lineStart, 0, true⟩, cs)
  | '$' :: cs => some (⟨.assert f.lineEnd, 0, true⟩, cs)
  | c :: cs => (literalPart? f c false).map fun part => (part, cs)

/-- The place up to which a pattern was read, and the names of its groups so far. -/
structure Cursor where
  rest : List Char
  names : List (List Char)

/-- Reads an expression up to its closing parenthesis or to the end, in a number of steps. Given are
the alternatives before the current one and the parts of the current one, both in reverse order. -/
def readExpression? :
    Nat → Flags → List Part → List Part → Cursor → Option (Part × Cursor)
  | 0, _, _, _, _ => none
  | steps + 1, f, before, parts, cursor =>
    let close (rest : List Char) : Option (Part × Cursor) :=
      some (.alternatives (.sequence parts :: before), { cursor with rest })
    let repeated (least : Nat) (most : Option Nat) (rest : List Char) : Option (Part × Cursor) :=
      (repeatLast? least most parts).bind fun parts =>
        readExpression? steps f before parts { cursor with rest := dropLazy rest }
    match f.skip cursor.rest with
    | [] => close []
    | ')' :: rest => close (')' :: rest)
    | '|' :: rest =>
      readExpression? steps f (.sequence parts :: before) [] { cursor with rest }
    | '(' :: rest =>
      match readOpening? f cursor.names rest with
      | none => none
      | some (.settings g rest) =>
        readExpression? steps g before (⟨.empty, 0, false⟩ :: parts) { cursor with rest }
      | some (.group g names rest) =>
        (readExpression? steps g [] [] ⟨rest, names⟩).bind fun (inner, cursor) =>
          match cursor.rest with
          | ')' :: rest =>
            readExpression? steps f before (⟨inner.pattern, inner.depth + 1, true⟩ :: parts)
              { cursor with rest }
          | _ => none
    | '[' :: rest =>
      let (negated, progress, inside) := openSet f rest
      (readSet? f rest.length.succ negated progress inside).bind fun (part, rest) =>
        readExpression? steps f before (⟨.one part.set, part.depth, true⟩ :: parts)
          { cursor with rest }
    | '?' :: rest => repeated 0 (some 1) rest
    | '*' :: rest => repeated 0 none rest
    | '+' :: rest => repeated 1 none rest
    | '\x7b' :: rest =>
      (readCounts? f rest).bind fun (least, most, rest) => repeated least most (f.skip rest)
    | cs =>
      (readPrimitive? f cs).bind fun (part, rest) =>
        readExpression? steps f before (part :: parts) { cursor with rest }

def maxDepth : Nat := 250

/-- How large a pattern may be when it is written out. -/
def maxSize : Nat := 10 * 2 ^ 20

def read? (text : String) : Option Pattern :=
  match readExpression? (text.length + 1) {} [] [] ⟨text.toList, []⟩ with
  | some (part, cursor) =>
    if cursor.rest = [] ∧ part.depth ≤ maxDepth ∧ part.pattern.size ≤ maxSize then
      some part.pattern
    else none
  | none => none

end SuiteSplit.Pattern

import SuiteSplit.Text.CodeSet

/-!
Strings as JSON writes them.

Quotes, backslashes and control characters are escaped, everything else stands for itself. A string
can name the halves of a surrogate pair by number; a half that stands alone makes it a string that
is no text.
-/

namespace SuiteSplit.Json

/-- The letter that stands behind a backslash for a character. -/
def escapeLetter? (c : Char) : Option Char :=
  match c with
  | '"' => some '"'
  | '\\' => some '\\'
  | '\x08' => some 'b'
  | '\x0c' => some 'f'
  | '\n' => some 'n'
  | '\r' => some 'r'
  | '\t' => some 't'
  | _ => none

def hexPair (n : Nat) : List Char := [Nat.digitChar (n / 16), Nat.digitChar (n % 16)]

def escape (c : Char) : List Char :=
  match escapeLetter? c with
  | some letter => ['\\', letter]
  | none => if c < ' ' then '\\' :: 'u' :: '0' :: '0' :: hexPair c.toNat else [c]

def printText (cs : List Char) : List Char := '"' :: cs.flatMap escape ++ ['"']

/-- The character that a letter behind a backslash stands for. -/
def unescapeLetter? (c : Char) : Option Char :=
  match c with
  | '"' => some '"'
  | '\\' => some '\\'
  | '/' => some '/'
  | 'b' => some '\x08'
  | 'f' => some '\x0c'
  | 'n' => some '\n'
  | 'r' => some '\r'
  | 't' => some '\t'
  | _ => none

/-- The codes of a string behind its first quote, and what follows its last one. -/
def readCodes? : List Char → Option (List Nat × List Char)
  | [] => none
  | '"' :: rest => some ([], rest)
  | '\\' :: 'u' :: a :: b :: c :: d :: rest =>
    (hexNumber? [a, b, c, d]).bind fun code =>
      (readCodes? rest).map fun (codes, rest) => (code :: codes, rest)
  | '\\' :: letter :: rest =>
    (unescapeLetter? letter).bind fun c =>
      (readCodes? rest).map fun (codes, rest) => (c.toNat :: codes, rest)
  | c :: rest =>
    if c < ' ' then none
    else (readCodes? rest).map fun (codes, rest) => (c.toNat :: codes, rest)

/-- The first half of a surrogate pair. -/
def isHighHalf (n : Nat) : Bool := 0xD800 ≤ n && n < 0xDC00

/-- The second half of a surrogate pair. -/
def isLowHalf (n : Nat) : Bool := 0xDC00 ≤ n && n < 0xE000

/-- The text of codes, with pairs joined; none if a half stands alone. -/
def joinHalves? : List Nat → Option (List Char)
  | [] => some []
  | [n] => if isHighHalf n || isLowHalf n then none else some [.ofNat n]
  | n :: m :: rest =>
    if isHighHalf n then
      if isLowHalf m then
        (joinHalves? rest).map (.ofNat (0x10000 + (n - 0xD800) * 0x400 + (m - 0xDC00)) :: ·)
      else none
    else if isLowHalf n then none
    else (joinHalves? (m :: rest)).map (.ofNat n :: ·)

/-- Reads a string behind its first quote. The inner option is none for a string that is no text. -/
def readText? (cs : List Char) : Option (Option (List Char) × List Char) :=
  (readCodes? cs).map fun (codes, rest) => (joinHalves? codes, rest)

end SuiteSplit.Json

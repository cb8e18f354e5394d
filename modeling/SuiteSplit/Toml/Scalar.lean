import SuiteSplit.Number.Numeral
import SuiteSplit.Text.Cut
import SuiteSplit.Timestamp
import SuiteSplit.Toml.Value

/-!
The parts of TOML that stand on one line: blanks, comments, keys and simple values.

Every reader takes from the front of a text and gives back what follows.
-/

namespace SuiteSplit.Toml

/-- What a reader gives. -/
abbrev Read (α : Type) := Option (α × List Char)

/-! ## Lines -/

/-- A space or a tab. -/
def isBlank (c : Char) : Bool := c = ' ' || c = '\t'

def skipBlanks (cs : List Char) : List Char := cs.dropWhile isBlank

/-- A character that can stand in a comment: no control character but the tab. -/
def isShown (c : Char) : Bool := c = '\t' || (' ' ≤ c && c ≠ '\x7f')

/-- Takes a line end: a line feed, with or without a carriage return. -/
def newline? : List Char → Option (List Char)
  | '\n' :: cs => some cs
  | '\r' :: '\n' :: cs => some cs
  | _ => none

/-- Takes a comment, if there is one. -/
def skipComment : List Char → List Char
  | '#' :: cs => cs.dropWhile isShown
  | cs => cs

/-- Takes blanks, a comment and the end of the line or of the text. -/
def lineEnd? (cs : List Char) : Option (List Char) :=
  match skipComment (skipBlanks cs) with
  | [] => some []
  | cs => newline? cs

/-! ## Strings -/

/-- The character of a hexadecimal code of a number of digits. -/
def readCode? (count : Nat) (cs : List Char) : Read Char :=
  let digits := cs.take count
  if digits.length = count then
    (hexNumber? digits).bind fun n =>
      if n.isValidChar then some (.ofNat n, cs.drop count) else none
  else none

/-- Reads an escape behind its backslash. -/
def readEscape? : List Char → Read Char
  | 'b' :: cs => some ('\x08', cs)
  | 't' :: cs => some ('\t', cs)
  | 'n' :: cs => some ('\n', cs)
  | 'f' :: cs => some ('\x0c', cs)
  | 'r' :: cs => some ('\r', cs)
  | '"' :: cs => some ('"', cs)
  | '\\' :: cs => some ('\\', cs)
  | 'u' :: cs => readCode? 4 cs
  | 'U' :: cs => readCode? 8 cs
  | _ => none

/-- Reads a string on one line up to its quote, in a number of steps. -/
def readLine? (quote : Char) (escapes : Bool) : Nat → List Char → Read (List Char)
  | 0, _ => none
  | _ + 1, [] => none
  | steps + 1, c :: cs =>
    if c = quote then some ([], cs)
    else if escapes ∧ c = '\\' then
      (readEscape? cs).bind fun (d, cs) =>
        (readLine? quote escapes steps cs).map fun (s, rest) => (d :: s, rest)
    else if isShown c then
      (readLine? quote escapes steps cs).map fun (s, rest) => (c :: s, rest)
    else none

def skipLines : Nat → List Char → List Char
  | 0, cs => cs
  | steps + 1, cs =>
    match newline? (skipBlanks cs) with
    | some cs => skipLines steps cs
    | none => skipBlanks cs

/-- Reads a string over several lines up to its three quotes, in a number of steps. One or two
quotes belong to the string, also in front of the three. A backslash at the end of a line drops the
line end and the blanks and empty lines behind it. -/
def readLines? (quote : Char) (escapes : Bool) : Nat → List Char → Read (List Char)
  | 0, _ => none
  | _ + 1, [] => none
  | steps + 1, c :: cs =>
    if c = quote then
      let quotes := 1 + (cs.takeWhile (· = quote)).length
      if quotes < 3 then
        (readLines? quote escapes steps cs).map fun (s, rest) => (c :: s, rest)
      else
        let inside := min (quotes - 3) 2
        some (List.replicate inside quote, (c :: cs).drop (inside + 3))
    else if escapes ∧ c = '\\' then
      match newline? (skipBlanks cs) with
      | some behind => readLines? quote escapes steps (skipLines behind.length behind)
      | none =>
        (readEscape? cs).bind fun (d, cs) =>
          (readLines? quote escapes steps cs).map fun (s, rest) => (d :: s, rest)
    else
      match newline? (c :: cs) with
      | some cs => (readLines? quote escapes steps cs).map fun (s, rest) => ('\n' :: s, rest)
      | none =>
        if isShown c then
          (readLines? quote escapes steps cs).map fun (s, rest) => (c :: s, rest)
        else none

/-- Reads a string behind its first quote. A line end right behind three quotes does not count. -/
def readString? (quote : Char) (cs : List Char) : Read (List Char) :=
  let escapes : Bool := quote = '"'
  match cs with
  | a :: b :: body =>
    if a = quote ∧ b = quote then
      readLines? quote escapes (body.length + 1) ((newline? body).getD body)
    else readLine? quote escapes (cs.length + 1) cs
  | _ => readLine? quote escapes (cs.length + 1) cs

/-! ## Keys -/

/-- A character of a key without quotes. -/
def isBare (c : Char) : Bool := c.isAlphanum || c = '-' || c = '_'

def readSimpleKey? (cs : List Char) : Read Key :=
  match cs with
  | '"' :: cs => readLine? '"' true (cs.length + 1) cs
  | '\'' :: cs => readLine? '\'' false (cs.length + 1) cs
  | cs =>
    let key := cs.takeWhile isBare
    if key = [] then none else some (key, cs.dropWhile isBare)

/-- A key has fewer parts than this. -/
def maxParts : Nat := 80

/-- Reads a key, part by part, with blanks around the parts. There are as many steps as there can
be parts. -/
def readParts? : Nat → List Char → Read (List Key)
  | 0, _ => none
  | steps + 1, cs =>
    (readSimpleKey? (skipBlanks cs)).bind fun (key, cs) =>
      match skipBlanks cs with
      | '.' :: cs => (readParts? steps cs).map fun (keys, rest) => (key :: keys, rest)
      | cs => some ([key], cs)

/-- Reads a key: its path and its last part. -/
def readKey? (cs : List Char) : Read (List Key × Key) :=
  (readParts? (maxParts - 1) cs).bind fun (keys, rest) =>
    keys.getLast?.map fun key => ((keys.dropLast, key), rest)

/-! ## Numbers and points in time -/

/-- Reads digits of a class, single underscores between them. -/
def readDigits? (p : Char → Bool) : List Char → Read (List Char)
  | [] => none
  | c :: cs =>
    if p c then
      match cs with
      | '_' :: d :: rest =>
        if p d then (readDigits? p (d :: rest)).map fun (ds, rest) => (c :: ds, rest) else none
      | ['_'] => none
      | d :: rest =>
        if p d then (readDigits? p (d :: rest)).map fun (ds, rest) => (c :: ds, rest)
        else some ([c], cs)
      | [] => some ([c], [])
    else none

def valueIn (base : Nat) (digits : List Char) : Nat :=
  digits.foldl (fun n c => n * base + (hexNumber? [c]).getD 0) 0

def maxInteger : Int := 2 ^ 63 - 1
def minInteger : Int := -2 ^ 63

/-- An integer, if it is in range. -/
def integer? (n : Int) : Option Value :=
  if minInteger ≤ n ∧ n ≤ maxInteger then some (.integer n) else none

/-- Reads an integer in a base behind its mark. -/
def readInBase? (base : Nat) (cs : List Char) : Read Value :=
  let isDigit (c : Char) : Bool := (hexNumber? [c]).any (· < base)
  (readDigits? isDigit cs).bind fun (digits, rest) =>
    (integer? (valueIn base digits)).map fun v => (v, rest)

/-- Reads the digits in front of a point. A zero in front stands alone. -/
def readWhole? : List Char → Read (List Char)
  | '0' :: cs => some (['0'], cs)
  | cs => readDigits? Char.isDigit cs

/-- Reads digits behind a mark, if the mark is there: the mark and the digits. -/
def readMarked? (marks : List Char) (signs : Bool) : List Char → Read (List Char)
  | [] => some ([], [])
  | c :: cs =>
    if c ∈ marks then
      let (sign, cs) := match cs with
        | '+' :: rest => if signs then (['+'], rest) else ([], cs)
        | '-' :: rest => if signs then (['-'], rest) else ([], cs)
        | _ => ([], cs)
      (readDigits? Char.isDigit cs).map fun (digits, rest) => (c :: sign ++ digits, rest)
    else some ([], c :: cs)

/-- A float. It is refused if it is positive and beyond the largest finite number. -/
def float? (literal : List Char) : Option Value :=
  (Numeral.read? literal).bind fun n =>
    if n.negative ∨ (Binary64.ofDecimal? n.value).isSome then some (.float literal) else none

/-- Reads an integer or a float. -/
def readNumber? (cs : List Char) : Read Value :=
  match cs with
  | '0' :: 'x' :: cs => readInBase? 16 cs
  | '0' :: 'o' :: cs => readInBase? 8 cs
  | '0' :: 'b' :: cs => readInBase? 2 cs
  | _ =>
    let (sign, unsigned) := match cs with
      | '+' :: rest => (['+'], rest)
      | '-' :: rest => (['-'], rest)
      | _ => ([], cs)
    if "inf".toList.isPrefixOf unsigned ∨ "nan".toList.isPrefixOf unsigned then
      some (.float (sign ++ unsigned.take 3), unsigned.drop 3)
    else
      (readWhole? unsigned).bind fun (whole, rest) =>
        (readMarked? ['.'] false rest).bind fun (fraction, rest) =>
          (readMarked? ['e', 'E'] true rest).bind fun (power, rest) =>
            if fraction = [] ∧ power = [] then
              let n : Int := natOfDigits whole
              (integer? (if sign = ['-'] then -n else n)).map fun v => (v, rest)
            else (float? (sign ++ whole ++ fraction ++ power)).map fun v => (v, rest)

/-- Reads a number of exactly so many digits that is in a range. -/
def readField? (count low high : Nat) (cs : List Char) : Read Nat :=
  let digits := (cs.take count).takeWhile Char.isDigit
  let n := natOfDigits digits
  if digits.length = count ∧ low ≤ n ∧ n ≤ high then some (n, cs.drop count) else none

def mark? (mark : Char) : List Char → Option (List Char)
  | c :: cs => if c = mark then some cs else none
  | [] => none

def literal (cs rest : List Char) : List Char := cs.take (cs.length - rest.length)

def time? (cs : List Char) : Option (List Char) := do
  let (_, cs) ← readField? 2 0 23 cs
  let cs ← mark? ':' cs
  let (_, cs) ← readField? 2 0 59 cs
  let cs ← mark? ':' cs
  let (_, cs) ← readField? 2 0 60 cs
  match cs with
  | '.' :: rest =>
    if (rest.takeWhile Char.isDigit) = [] then pure cs else pure (rest.dropWhile Char.isDigit)
  | _ => pure cs

/-- Takes an offset from UTC, if one is there. -/
def offset? : List Char → Option (List Char)
  | [] => some []
  | c :: cs =>
    if c = 'Z' ∨ c = 'z' then some cs
    else if c = '+' ∨ c = '-' then do
      let (_, cs) ← readField? 2 0 23 cs
      let cs ← mark? ':' cs
      let (_, cs) ← readField? 2 0 59 cs
      pure cs
    else some (c :: cs)

def date? (cs : List Char) : Option (List Char) := do
  let (year, cs) ← readField? 4 0 9999 cs
  let cs ← mark? '-' cs
  let (month, cs) ← readField? 2 1 12 cs
  let cs ← mark? '-' cs
  let (_, cs) ← readField? 2 1 (Date.daysInMonth year month) cs
  pure cs

/-- Takes the time behind a date, if one is there. -/
def timeBehind? (cs : List Char) : Option (List Char) :=
  match cs with
  | c :: rest =>
    if c = 'T' ∨ c = 't' ∨ c = ' ' then
      match time? rest with
      | some rest => offset? rest
      | none => some cs
    else some cs
  | [] => some []

/-- Reads a date, a time, or both. -/
def readMoment? (cs : List Char) : Read Value :=
  let rest := match date? cs with
    | some rest => timeBehind? rest
    | none => time? cs
  rest.map fun rest => (.moment (literal cs rest), rest)

def readWord? (cs : List Char) : Read Value :=
  [("true", true), ("false", false)].findSome? fun (word, b) =>
    if word.toList.isPrefixOf cs then some (.bool b, cs.drop word.length) else none

/-- Reads a value that holds no other one. -/
def readScalar? (cs : List Char) : Read Value :=
  match cs with
  | '"' :: rest => (readString? '"' rest).map fun (s, rest) => (.text s, rest)
  | '\'' :: rest => (readString? '\'' rest).map fun (s, rest) => (.text s, rest)
  | _ => (readWord? cs).orElse fun _ => (readMoment? cs).orElse fun _ => readNumber? cs

end SuiteSplit.Toml

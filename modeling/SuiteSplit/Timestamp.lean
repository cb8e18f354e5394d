import SuiteSplit.Number.Numeral
import SuiteSplit.Text.Blank

/-!
Points in time, as an index of manifests states them.

A timestamp is a date of the Gregorian calendar and a time of day, both in UTC. The written form has
a `Z` at its end; the reader also accepts an offset and lenient spacing, and converts to UTC.
-/

namespace SuiteSplit

/-- A date of the Gregorian calendar. -/
structure Date where
  year : Int
  month : Nat
  day : Nat
deriving DecidableEq, Repr

namespace Date

def isLeapYear (year : Int) : Bool := year % 4 = 0 && (year % 100 ≠ 0 || year % 400 = 0)

def daysInMonth (year : Int) (month : Nat) : Nat :=
  if month = 2 then if isLeapYear year then 29 else 28
  else if month = 4 ∨ month = 6 ∨ month = 9 ∨ month = 11 then 30
  else 31

/-- The years that dates can have. -/
def firstYear : Int := -262143
def lastYear : Int := 262142

def isValid (d : Date) : Bool :=
  firstYear ≤ d.year && d.year ≤ lastYear && 1 ≤ d.month && d.month ≤ 12 && 1 ≤ d.day &&
    d.day ≤ daysInMonth d.year d.month

def pred (d : Date) : Date :=
  if 1 < d.day then { d with day := d.day - 1 }
  else if 1 < d.month then ⟨d.year, d.month - 1, daysInMonth d.year (d.month - 1)⟩
  else ⟨d.year - 1, 12, 31⟩

def succ (d : Date) : Date :=
  if d.day < daysInMonth d.year d.month then { d with day := d.day + 1 }
  else if d.month < 12 then ⟨d.year, d.month + 1, 1⟩
  else ⟨d.year + 1, 1, 1⟩

end Date

/-- A point in time in UTC: a date, a minute of the day, a second, which is 60 in a leap second, and
nanoseconds. -/
structure Timestamp where
  date : Date
  minute : Nat
  second : Nat
  nanos : Nat
deriving DecidableEq, Repr

namespace Timestamp

def minutesPerDay : Nat := 24 * 60

/-- The point in time so many seconds and nanoseconds after the start of 1970. -/
def ofSeconds (seconds nanos : Nat) : Timestamp where
  date := Nat.repeat Date.succ (seconds / (minutesPerDay * 60)) ⟨1970, 1, 1⟩
  minute := seconds / 60 % minutesPerDay
  second := seconds % 60
  nanos := nanos

/-- The same point in time in UTC, for a local time that is ahead by some minutes. -/
def toUtc (t : Timestamp) (ahead : Int) : Timestamp :=
  let minute := (t.minute : Int) - ahead
  if minute < 0 then { t with date := t.date.pred, minute := (minute + minutesPerDay).toNat }
  else if minute < minutesPerDay then { t with minute := minute.toNat }
  else { t with date := t.date.succ, minute := (minute - minutesPerDay).toNat }

/-! ## Writing -/

/-- The digits of a number, with zeros in front up to a width. -/
def padded (width n : Nat) : List Char :=
  let digits := Nat.toDigits 10 n
  List.replicate (width - digits.length) '0' ++ digits

/-- A year of four digits, or any other year with its sign. -/
def printYear (year : Int) : List Char :=
  if 0 ≤ year ∧ year ≤ 9999 then padded 4 year.toNat
  else (if year < 0 then '-' else '+') :: padded 4 year.natAbs

/-- The fraction of a second with the fewest of 0, 3, 6 and 9 digits that state it. -/
def printFraction (nanos : Nat) : List Char :=
  if nanos = 0 then []
  else if nanos % 10 ^ 6 = 0 then '.' :: padded 3 (nanos / 10 ^ 6)
  else if nanos % 10 ^ 3 = 0 then '.' :: padded 6 (nanos / 10 ^ 3)
  else '.' :: padded 9 nanos

def print (t : Timestamp) : List Char :=
  printYear t.date.year ++ '-' :: padded 2 t.date.month ++ '-' :: padded 2 t.date.day ++
    'T' :: padded 2 (t.minute / 60) ++ ':' :: padded 2 (t.minute % 60) ++
    ':' :: padded 2 t.second ++ printFraction t.nanos ++ ['Z']

/-! ## Reading -/

def skipSpace (cs : List Char) : List Char := cs.dropWhile Text.isWhiteSpace

/-- Reads one digit or more, but no more than `most`. -/
def readDigits? (most : Nat) (cs : List Char) : Option (Nat × List Char) :=
  let digits := (cs.take most).takeWhile Char.isDigit
  if digits = [] then none else some (natOfDigits digits, cs.drop digits.length)

/-- Reads a number of at most two digits, with space in front. -/
def readField? (cs : List Char) : Option (Nat × List Char) := readDigits? 2 (skipSpace cs)

/-- Reads a mark with space in front. -/
def readMark? (mark : Char) (cs : List Char) : Option (List Char) :=
  match skipSpace cs with
  | c :: cs => if c = mark then some cs else none
  | [] => none

/-- Reads a year: at most four digits, or a sign and any number of digits. -/
def readYear? (cs : List Char) : Option (Int × List Char) :=
  match skipSpace cs with
  | '-' :: cs => (readDigits? cs.length cs).map fun (n, cs) => (-(n : Int), cs)
  | '+' :: cs => (readDigits? cs.length cs).map fun (n, cs) => ((n : Int), cs)
  | cs => (readDigits? 4 cs).map fun (n, cs) => ((n : Int), cs)

def readDate? (cs : List Char) : Option (Date × List Char) := do
  let (year, cs) ← readYear? cs
  let cs ← readMark? '-' cs
  let (month, cs) ← readField? cs
  let cs ← readMark? '-' cs
  let (day, cs) ← readField? cs
  pure (⟨year, month, day⟩, cs)

/-- Reads a fraction of a second in nanoseconds; digits behind the ninth are dropped. -/
def readFraction? : List Char → Option (Nat × List Char)
  | '.' :: cs =>
    let digits := cs.takeWhile Char.isDigit
    let kept := digits.take 9
    if digits = [] then none
    else some (natOfDigits kept * 10 ^ (9 - kept.length), cs.drop digits.length)
  | cs => some (0, cs)

/-- Reads two digits with a first one of at most `most`. -/
def readPair? (most : Char) : List Char → Option (Nat × List Char)
  | a :: b :: cs =>
    if a.isDigit ∧ a ≤ most ∧ b.isDigit then some (natOfDigits [a, b], cs) else none
  | _ => none

/-- Reads the minutes by which local time is ahead of UTC. -/
def readOffset? (cs : List Char) : Option (Int × List Char) :=
  let signed (sign : Int) (cs : List Char) : Option (Int × List Char) := do
    let (hours, cs) ← readPair? '9' cs
    let (minutes, cs) ← readPair? '5' (cs.dropWhile fun c => c = ':' || Text.isWhiteSpace c)
    if hours < 24 then pure (sign * (hours * 60 + minutes : Nat), cs) else none
  match cs with
  | '+' :: cs => signed 1 cs
  | '-' :: cs => signed (-1) cs
  | '\u2212' :: cs => signed (-1) cs
  | 'Z' :: cs => some (0, cs)
  | 'z' :: cs => some (0, cs)
  | cs => if (cs.take 3).map Char.toUpper = ['U', 'T', 'C'] then some (0, cs.drop 3) else none

def read? (text : List Char) : Option Timestamp := do
  let (date, cs) ← readDate? text
  let cs ← match cs with
    | c :: cs => if c = 'T' ∨ c = 't' ∨ c = ' ' then some cs else none
    | [] => none
  let (hour, cs) ← readField? cs
  let cs ← readMark? ':' cs
  let (minute, cs) ← readField? cs
  let cs ← readMark? ':' cs
  let (second, cs) ← readField? cs
  let (nanos, cs) ← readFraction? cs
  let (ahead, cs) ← readOffset? (skipSpace cs)
  if skipSpace cs ≠ [] ∨ 24 ≤ hour ∨ 60 ≤ minute ∨ 60 < second ∨ !date.isValid then none
  else
    let t : Timestamp := toUtc ⟨date, hour * 60 + minute, second, nanos⟩ ahead
    if t.date.isValid then some t else none

end Timestamp

end SuiteSplit

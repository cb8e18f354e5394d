import SuiteSplit.Number.Numeral

/-!
Numbers as JSON writes them.

A number keeps its digits, so that reading and writing lose nothing. It has two readings. As a count
it is a natural number below 2^64 in plain digits. As a binary64 number its leading digits, as many
as fit 64 bits, are rounded once, and the result is multiplied or divided by the power of ten with a
second rounding.
-/

namespace SuiteSplit.Json

/-- A number: sign, whole digits, the digits of a fraction, if any, and a power of ten, if any. -/
structure Number where
  negative : Bool
  whole : List Char
  fraction : List Char
  power : Option Int
deriving DecidableEq, Repr

/-- Counts and leading digits fit 64 bits. -/
def wordLimit : Nat := 2 ^ 64

/-- Leading digits of a numeral: their value and the power of ten of the last of them. Once a digit
does not fit, the digits behind it count as places only. -/
structure LeadingDigits where
  value : Nat
  power : Int
  full : Bool
deriving DecidableEq, Repr

namespace LeadingDigits

/-- The value with one more digit, if that fits. -/
def extended? (d : LeadingDigits) (c : Char) : Option Nat :=
  let value := d.value * 10 + (c.toNat - '0'.toNat)
  if d.full ∨ wordLimit ≤ value then none else some value

def addWhole (d : LeadingDigits) (c : Char) : LeadingDigits :=
  match d.extended? c with
  | some value => { d with value }
  | none => { d with power := d.power + 1, full := true }

/-- Takes a digit behind the point. -/
def addFraction (d : LeadingDigits) (c : Char) : LeadingDigits :=
  match d.extended? c with
  | some value => { d with value, power := d.power - 1 }
  | none => { d with full := true }

end LeadingDigits

/-- The largest power of ten that is a binary64 number. -/
def maxPower : Nat := 308

/-- The largest power of ten that a numeral can state without being out of range at once. -/
def maxStatedPower : Nat := 2 ^ 31 - 1

/-- A number times a power of ten; none if the product is beyond the largest finite number. -/
def shiftPower? (x : Binary64) (power : Int) : Option Binary64 :=
  if power < -(maxPower : Int) then
    if x = .zero then some x
    else shiftPower? (x / .ofNat (10 ^ maxPower)) (power + maxPower)
  else if power < 0 then some (x / .ofNat (10 ^ (-power).toNat))
  else if power ≤ maxPower then
    let y := x * .ofNat (10 ^ power.toNat)
    if y.isFinite then some y else none
  else if x = .zero then some x
  else none
termination_by (-power).toNat
decreasing_by
  have : maxPower = 308 := rfl
  omega

namespace Number

def ofNat (n : Nat) : Number := ⟨false, Nat.toDigits 10 n, [], none⟩

/-- The count that the number states, if it states one. -/
def toCount? (n : Number) : Option Nat :=
  let value := natOfDigits n.whole
  if n.negative ∨ n.fraction ≠ [] ∨ n.power.isSome ∨ wordLimit ≤ value then none else some value

def leading (n : Number) : LeadingDigits :=
  let whole := n.whole.foldl LeadingDigits.addWhole ⟨0, 0, false⟩
  n.fraction.foldl LeadingDigits.addFraction { whole with full := false }

/-- The absolute value as a binary64 number; none if it is out of range. -/
def toBinary64? (n : Number) : Option Binary64 :=
  let digits := n.leading
  let stated := n.power.getD 0
  if (maxStatedPower : Int) < stated then if digits.value = 0 then some .zero else none
  else if stated < -(maxStatedPower : Int) then some .zero
  else shiftPower? (.ofNat digits.value) (digits.power + stated)

/-- The number of a decimal: in plain digits with a fraction from 10^-5 up to below 10^16, and with
one digit before the point and a power of ten elsewhere. -/
def ofDecimal (d : Decimal) : Number :=
  let digits := Nat.toDigits 10 d.digits
  let zeros (n : Nat) := List.replicate n '0'
  if d.digits = 0 then ⟨false, ['0'], ['0'], none⟩
  else if d.magnitude < -5 ∨ 15 < d.magnitude then
    ⟨false, digits.take 1, digits.drop 1, some d.magnitude⟩
  else if 0 ≤ d.exponent then ⟨false, digits ++ zeros d.exponent.toNat, ['0'], none⟩
  else if 0 ≤ d.magnitude then
    let point := d.magnitude.toNat + 1
    ⟨false, digits.take point, digits.drop point, none⟩
  else ⟨false, ['0'], zeros (-d.magnitude - 1).toNat ++ digits, none⟩

/-- The number of a binary64 number: the shortest digits that round to it. -/
def ofBinary64 (x : Binary64) : Number := ofDecimal x.shortest

/-- A power of ten behind the digits. A positive one has its sign. -/
def printPower (power : Int) : List Char :=
  'e' :: (if power < 0 then '-' else '+') :: Nat.toDigits 10 power.natAbs

def print (n : Number) : List Char :=
  (if n.negative then ['-'] else []) ++ n.whole ++
    (if n.fraction = [] then [] else '.' :: n.fraction) ++
    (n.power.map printPower).getD []

/-- The power of ten behind a mark, and the rest; nothing at all stands for no power. -/
def readPower? : List Char → Option (Option Int × List Char)
  | [] => some (none, [])
  | mark :: cs =>
    if mark = 'e' ∨ mark = 'E' then
      let (negative, behind) := Numeral.splitSign cs
      let digits := behind.takeWhile Char.isDigit
      let size : Int := natOfDigits digits
      if digits = [] then none
      else some (some (if negative then -size else size), behind.dropWhile Char.isDigit)
    else some (none, mark :: cs)

/-- The digits behind a point, and the rest. A point needs a digit. -/
def readFraction? : List Char → Option (List Char × List Char)
  | '.' :: cs =>
    let digits := cs.takeWhile Char.isDigit
    if digits = [] then none else some (digits, cs.dropWhile Char.isDigit)
  | cs => some ([], cs)

/-- The digits in front of the point, and the rest. A zero in front stands alone. -/
def readWhole? : List Char → Option (List Char × List Char)
  | '0' :: cs => some (['0'], cs)
  | cs =>
    let digits := cs.takeWhile Char.isDigit
    if digits = [] then none else some (digits, cs.dropWhile Char.isDigit)

def read? (cs : List Char) : Option (Number × List Char) :=
  let (negative, unsigned) := match cs with
    | '-' :: rest => (true, rest)
    | _ => (false, cs)
  (readWhole? unsigned).bind fun (whole, cs) =>
    (readFraction? cs).bind fun (fraction, cs) =>
      (readPower? cs).map fun (power, cs) => (⟨negative, whole, fraction, power⟩, cs)

end Number

end SuiteSplit.Json

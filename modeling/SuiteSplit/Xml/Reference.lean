import SuiteSplit.Text.CodeSet
import SuiteSplit.Text.Cut

/-!
References in attribute values: the five named characters and characters by number.

The replacement of a reference is not looked at again.
-/

namespace SuiteSplit.Xml

/-- Why a number stands for no character. -/
inductive NumberError
  | sign
  | empty
  | badDigit
  | tooLarge
  | noCharacter (code : Nat)
  | nul
deriving DecidableEq, Repr

def NumberError.message : NumberError → String
  | sign => "unexpected number sign"
  | empty => "cannot parse integer from empty string"
  | badDigit => "invalid digit found in string"
  | tooLarge => "number too large to fit in target type"
  | noCharacter code => s!"`{code}` is not a valid codepoint"
  | nul => "0x0 character is not permitted in XML"

/-- Why a value cannot be expanded. Positions are byte offsets in the value. -/
inductive ReferenceError
  | unterminated (start stop : Nat)
  | unknownName (start stop : Nat) (name : List Char)
  | number (cause : NumberError)
deriving DecidableEq, Repr

def ReferenceError.message : ReferenceError → String
  | unterminated start stop =>
    s!"Error while escaping character at range {start}..{stop}: Cannot find ';' after '&'"
  | unknownName start stop name =>
    s!"at {start}..{stop}: unrecognized entity `{String.ofList name}`"
  | number cause => s!"invalid character reference: {cause.message}"

namespace Reference

/-- Numbers of characters are read as unsigned 32-bit integers. -/
def codeLimit : Nat := 2 ^ 32

/-- The next digit behind the digits of `n`. -/
def addDigit (base n : Nat) (c : Char) : Except NumberError Nat :=
  match hexNumber? [c] with
  | none => .error .badDigit
  | some d =>
    if base ≤ d then .error .badDigit
    else if codeLimit ≤ n * base + d then .error .tooLarge
    else .ok (n * base + d)

/-- The value of digits. Of several faults the leftmost counts. -/
def readCode (base : Nat) : List Char → Except NumberError Nat
  | [] => .error .empty
  | '+' :: _ => .error .sign
  | '-' :: _ => .error .sign
  | cs => cs.foldlM (addDigit base) 0

def charOfCode (n : Nat) : Except NumberError Char :=
  if n = 0 then .error .nul
  else if h : n.isValidChar then .ok (.ofNatAux n h)
  else .error (.noCharacter n)

/-- The character of a reference by number: hexadecimal behind an `x`, else decimal. -/
def charOfNumber : List Char → Except NumberError Char
  | 'x' :: digits => (readCode 16 digits).bind charOfCode
  | digits => (readCode 10 digits).bind charOfCode

def named? (name : List Char) : Option Char :=
  [("lt", '<'), ("gt", '>'), ("amp", '&'), ("apos", '\''), ("quot", '"')].findSome?
    fun (known, c) => if name = known.toList then some c else none

/-- The character of a reference whose name starts at an offset. -/
def resolve (start : Nat) : List Char → Except ReferenceError Char
  | '#' :: number => (charOfNumber number).mapError .number
  | name =>
    match named? name with
    | some c => .ok c
    | none => .error (.unknownName start (start + Text.width name) name)

/-- Characters between the `&` and the `;` of a reference. -/
def inName (c : Char) : Bool := c ≠ '&' && c ≠ ';'

/-- Expands the references of a text that starts at an offset and ends at `stop`. -/
def expandFrom (stop offset : Nat) : List Char → Except ReferenceError (List Char)
  | [] => .ok []
  | c :: cs =>
    if c = '&' then
      match h : cs.dropWhile inName with
      | ';' :: rest =>
        let name := cs.takeWhile inName
        match resolve (offset + 1) name with
        | .error e => .error e
        | .ok x => (expandFrom stop (offset + 2 + Text.width name) rest).map (x :: ·)
      | _ => .error (.unterminated offset stop)
    else (expandFrom stop (offset + c.utf8Size) cs).map (c :: ·)
termination_by cs => cs.length
decreasing_by
  · have h₁ := congrArg List.length h
    have h₂ := (List.dropWhile_sublist (l := cs) inName).length_le
    simp only [List.length_cons] at *
    omega
  · simp

/-- A value with its references replaced. -/
def expand (cs : List Char) : Except ReferenceError (List Char) :=
  expandFrom (Text.width cs) 0 cs

end Reference

end SuiteSplit.Xml

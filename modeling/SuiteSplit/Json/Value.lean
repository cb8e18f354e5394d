import SuiteSplit.Json.Number
import SuiteSplit.Json.Text

/-!
JSON values, and how they are written.
-/

namespace SuiteSplit.Json

/-- A value. A string that is no text has none. -/
inductive Value
  | null
  | bool (b : Bool)
  | number (n : Number)
  | text (s : Option (List Char))
  | array (items : List Value)
  | object (members : List (Option (List Char) × Value))
deriving Repr

namespace Value

def ofText (s : String) : Value := .text (some s.toList)

def ofNat (n : Nat) : Value := .number (.ofNat n)

def ofFields (fields : List (String × Value)) : Value :=
  .object (fields.map fun (key, value) => (some key.toList, value))

/-- The values of the given fields. An object has each of the fields once and may have others, but
each of its keys is a text; an array has exactly the fields, in their order. -/
def fields? (keys : List String) : Value → Option (List Value)
  | .object members =>
    if members.all (·.1.isSome) then
      keys.mapM fun key =>
        match members.filter (·.1 = some key.toList) with
        | [(_, value)] => some value
        | _ => none
    else none
  | .array items => if items.length = keys.length then some items else none
  | _ => none

def toText? : Value → Option String
  | .text (some cs) => some (.ofList cs)
  | _ => none

def toCount? : Value → Option Nat
  | .number n => n.toCount?
  | _ => none

end Value

/-- How values are laid out: on one line, or on a line each with two blanks per level. -/
inductive Layout
  | compact
  | pretty
deriving DecidableEq, Repr

namespace Layout

/-- What stands in front of an item or a closing bracket at a level. -/
def line (layout : Layout) (level : Nat) : List Char :=
  match layout with
  | compact => []
  | pretty => '\n' :: List.replicate (2 * level) ' '

def colon : Layout → List Char
  | compact => [':']
  | pretty => [':', ' ']

end Layout

/-- A string; one that is no text stands as half a surrogate pair. -/
def printString : Option (List Char) → List Char
  | some cs => printText cs
  | none => "\"\\ud800\"".toList

namespace Value

mutual

def print (layout : Layout) (level : Nat) : Value → List Char
  | .null => "null".toList
  | .bool b => (if b then "true" else "false").toList
  | .number n => n.print
  | .text s => printString s
  | .array [] => ['[', ']']
  | .array (v :: vs) =>
    '[' :: layout.line (level + 1) ++ print layout (level + 1) v ++
      printItems layout (level + 1) vs ++ layout.line level ++ [']']
  | .object [] => ['\x7b', '\x7d']
  | .object ((k, v) :: ms) =>
    '\x7b' :: layout.line (level + 1) ++ printString k ++ layout.colon ++
      print layout (level + 1) v ++ printMembers layout (level + 1) ms ++
      layout.line level ++ ['\x7d']

/-- The items behind the first one. -/
def printItems (layout : Layout) (level : Nat) : List Value → List Char
  | [] => []
  | v :: vs => ',' :: layout.line level ++ print layout level v ++ printItems layout level vs

/-- The members behind the first one. -/
def printMembers (layout : Layout) (level : Nat) :
    List (Option (List Char) × Value) → List Char
  | [] => []
  | (k, v) :: ms =>
    ',' :: layout.line level ++ printString k ++ layout.colon ++ print layout level v ++
      printMembers layout level ms

end

def render (layout : Layout) (v : Value) : String := .ofList (v.print layout 0)

end Value

end SuiteSplit.Json

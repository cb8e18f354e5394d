import SuiteSplit.Json.Value
import SuiteSplit.Text.Blank

/-!
Reading JSON values.

A character leads to at most two steps, so twice as many steps as there are characters are enough,
however deep a value is nested.
-/

namespace SuiteSplit.Json

def skipBlanks (cs : List Char) : List Char := cs.dropWhile Text.isBlank

/-- Values that are words. -/
def readWord? (cs : List Char) : Option (Value × List Char) :=
  [("null", Value.null), ("true", .bool true), ("false", .bool false)].findSome? fun (word, v) =>
    if word.toList.isPrefixOf cs then some (v, cs.drop word.length) else none

/-- Reads the key of a member and the colon behind it. -/
def readKey? (cs : List Char) : Option (Option (List Char) × List Char) :=
  match skipBlanks cs with
  | '"' :: cs =>
    (readText? cs).bind fun (key, cs) =>
      match skipBlanks cs with
      | ':' :: cs => some (key, cs)
      | _ => none
  | _ => none

mutual

/-- Reads a value in at most the given number of steps. -/
def readValue? : Nat → List Char → Option (Value × List Char)
  | 0, _ => none
  | steps + 1, cs =>
    match skipBlanks cs with
    | '"' :: cs => (readText? cs).map fun (s, rest) => (.text s, rest)
    | '[' :: cs =>
      match skipBlanks cs with
      | ']' :: rest => some (.array [], rest)
      | _ => (readItems? steps cs).map fun (items, rest) => (.array items, rest)
    | '\x7b' :: cs =>
      match skipBlanks cs with
      | '\x7d' :: rest => some (.object [], rest)
      | _ => (readMembers? steps cs).map fun (members, rest) => (.object members, rest)
    | cs =>
      match readWord? cs with
      | some result => some result
      | none => (Number.read? cs).map fun (n, rest) => (.number n, rest)

def readItems? : Nat → List Char → Option (List Value × List Char)
  | 0, _ => none
  | steps + 1, cs =>
    (readValue? steps cs).bind fun (v, cs) =>
      match skipBlanks cs with
      | ',' :: cs => (readItems? steps cs).map fun (vs, rest) => (v :: vs, rest)
      | ']' :: rest => some ([v], rest)
      | _ => none

def readMembers? : Nat → List Char → Option (List (Option (List Char) × Value) × List Char)
  | 0, _ => none
  | steps + 1, cs =>
    (readKey? cs).bind fun (key, cs) =>
      (readValue? steps cs).bind fun (v, cs) =>
        match skipBlanks cs with
        | ',' :: cs => (readMembers? steps cs).map fun (ms, rest) => ((key, v) :: ms, rest)
        | '\x7d' :: rest => some ([(key, v)], rest)
        | _ => none

end

def read? (text : String) : Option Value :=
  match readValue? (2 * text.toList.length + 1) text.toList with
  | some (v, rest) => if skipBlanks rest = [] then some v else none
  | none => none

end SuiteSplit.Json

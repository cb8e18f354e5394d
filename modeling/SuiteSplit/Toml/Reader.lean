import SuiteSplit.Toml.Scalar

/-!
Reading TOML documents.

A document is a sequence of lines; only arrays and strings go over several of them. Values are nested
less than eighty levels deep.
-/

namespace SuiteSplit.Toml

/-- Drops blanks, comments and line ends inside of an array; a comment ends at a line end. -/
def skipFree? : Nat → List Char → Option (List Char)
  | 0, cs => some cs
  | steps + 1, cs =>
    match skipBlanks cs with
    | '#' :: cs => (newline? (cs.dropWhile isShown)).bind (skipFree? steps)
    | '\n' :: cs => skipFree? steps cs
    | '\r' :: '\n' :: cs => skipFree? steps cs
    | cs => some cs

/-- Levels to which arrays and inline tables can be nested. -/
def maxLevels : Nat := 79

mutual

/-- Reads a value that holds others to at most so many levels, in a number of steps. -/
def readValue? (levels : Nat) : Nat → List Char → Read Value
  | 0, _ => none
  | steps + 1, cs =>
    match cs, levels with
    | '[' :: _, 0 => none
    | '\x7b' :: _, 0 => none
    | '[' :: cs, levels + 1 =>
      (readItems? levels steps cs).map fun (items, rest) => (.array items, rest)
    | '\x7b' :: cs, levels + 1 =>
      match skipBlanks cs with
      | '\x7d' :: rest => some (.table .inline [], rest)
      | _ =>
        (readMembers? levels [] steps cs).map fun (entries, rest) => (.table .inline entries, rest)
    | cs, _ => readScalar? cs

/-- Reads items up to the closing bracket. A comma can stand behind the last one. -/
def readItems? (levels : Nat) : Nat → List Char → Read (List Value)
  | 0, _ => none
  | steps + 1, cs =>
    match skipFree? cs.length cs with
    | none => none
    | some (']' :: rest) => some ([], rest)
    | some cs =>
      (readValue? levels steps cs).bind fun (v, cs) =>
        match skipFree? cs.length cs with
        | some (',' :: cs) => (readItems? levels steps cs).map fun (vs, rest) => (v :: vs, rest)
        | some (']' :: rest) => some ([v], rest)
        | _ => none

/-- Reads the keys and values of an inline table, behind its first entries. -/
def readMembers? (levels : Nat) (entries : Entries) : Nat → List Char → Read Entries
  | 0, _ => none
  | steps + 1, cs =>
    (readKey? cs).bind fun ((path, key), cs) =>
      (mark? '=' cs).bind fun cs =>
        (readValue? levels steps (skipBlanks cs)).bind fun (v, cs) =>
          (Entries.insert? path key v (.inline, entries)).bind fun entries =>
            match skipBlanks cs with
            | ',' :: cs => readMembers? levels entries steps cs
            | '\x7d' :: rest => some (entries, rest)
            | _ => none

end

/-- What was read of a document: its entries, and the path of the table that keys belong to. -/
structure Document where
  entries : Entries
  here : List Key
deriving Repr

namespace Document

/-- Adds a key to the table that keys belong to. -/
def insert? (d : Document) (path : List Key) (key : Key) (v : Value) : Option Document :=
  (Entries.descend? false d.here (Entries.insert? path key v) .header d.entries).map fun entries =>
    { d with entries }

/-- Reads a header behind its first bracket. -/
def readHeader? (d : Document) (cs : List Char) : Option (Document × List Char) :=
  match cs with
  | '[' :: cs => do
    let ((path, key), cs) ← readKey? cs
    let cs ← mark? ']' cs
    let cs ← mark? ']' cs
    let entries ← Entries.appendTable? path key d.entries
    pure (⟨entries, path ++ [key]⟩, cs)
  | _ => do
    let ((path, key), cs) ← readKey? cs
    let cs ← mark? ']' cs
    let entries ← Entries.openTable? path key d.entries
    pure (⟨entries, path ++ [key]⟩, cs)

def readEntry? (d : Document) (cs : List Char) : Option (Document × List Char) := do
  let ((path, key), cs) ← readKey? cs
  let cs ← mark? '=' cs
  let (v, cs) ← readValue? maxLevels (2 * cs.length + 2) (skipBlanks cs)
  let d ← d.insert? path key v
  pure (d, cs)

/-- Reads the lines of a document, in a number of steps. -/
def readLines? (d : Document) : Nat → List Char → Option Document
  | 0, _ => none
  | steps + 1, cs =>
    match skipBlanks cs with
    | [] => some d
    | '[' :: cs =>
      (d.readHeader? cs).bind fun (d, cs) => (lineEnd? cs).bind (readLines? d steps)
    | c :: cs =>
      if c = '#' ∨ c = '\n' ∨ c = '\r' then (lineEnd? (c :: cs)).bind (readLines? d steps)
      else (d.readEntry? (c :: cs)).bind fun (d, cs) => (lineEnd? cs).bind (readLines? d steps)

end Document

/-- Reads a text that is one document. One byte order mark in front is not part of it. -/
def read? (text : String) : Option Entries :=
  let cs := match text.toList with
    | '\ufeff' :: cs => cs
    | cs => cs
  (Document.readLines? ⟨[], []⟩ (cs.length + 1) cs).map (·.entries)

end SuiteSplit.Toml

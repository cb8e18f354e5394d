/-!
TOML values, and how keys and headers build up a table.

A table is built up in four ways, and each of them allows other additions later on. A header opens
its table once; the tables on the way to it are implied and can still be opened. Dotted keys make
tables that only dotted keys extend. An inline table is closed.
-/

namespace SuiteSplit.Toml

/-- A key of a table. -/
abbrev Key := List Char

/-- How a table came to be. -/
inductive Origin
  | header
  | implied
  | dotted
  | inline
deriving DecidableEq, Repr

/-- A value. Floats and points in time stand as they are written. -/
inductive Value
  | text (s : List Char)
  | integer (n : Int)
  | float (literal : List Char)
  | bool (b : Bool)
  | moment (literal : List Char)
  | array (items : List Value)
  | table (origin : Origin) (entries : List (Key × Value))
  /-- The tables of headers with double brackets. -/
  | tables (items : List (List (Key × Value)))
deriving Repr

/-- The entries of a table, in the order in which they were added. -/
abbrev Entries := List (Key × Value)

namespace Entries

def replace (entries : Entries) (key : Key) (v : Value) : Entries :=
  entries.map fun (k, old) => if k = key then (k, v) else (k, old)

/-- Adds a key that is not there. -/
def add? (entries : Entries) (key : Key) (v : Value) : Option Entries :=
  match entries.lookup key with
  | none => some (entries ++ [(key, v)])
  | some _ => none

/-- Applies a change to the table at a path, and makes the tables on the way that are not there.
On the way lie tables that are not closed and the last ones of headers with double brackets; for
dotted keys only tables that no header opened. -/
def descend? (byDots : Bool) (path : List Key) (change : Origin × Entries → Option Entries)
    (origin : Origin) (entries : Entries) : Option Entries :=
  match path with
  | [] => change (origin, entries)
  | key :: path =>
    match entries.lookup key with
    | none =>
      let made := if byDots then Origin.dotted else .implied
      (descend? byDots path change made []).map fun inner =>
        entries ++ [(key, .table made inner)]
    | some (.table origin inner) =>
      if origin = .inline ∨ (byDots ∧ origin = .header) then none
      else
        (descend? byDots path change origin inner).map fun inner =>
          replace entries key (.table origin inner)
    | some (.tables items) =>
      match items.getLast? with
      | none => none
      | some last =>
        (descend? byDots path change .header last).map fun last =>
          replace entries key (.tables (items.dropLast ++ [last]))
    | some _ => none

/-- Adds the value of a dotted key to a table. The tables on its way are its own. -/
def insert? (path : List Key) (key : Key) (v : Value) (table : Origin × Entries) :
    Option Entries :=
  descend? true path
    (fun (origin, entries) =>
      if (origin = .dotted) = (path = []) then none else add? entries key v)
    table.1 table.2

def openTable? (path : List Key) (key : Key) (root : Entries) : Option Entries :=
  descend? false path
    (fun (_, entries) =>
      match entries.lookup key with
      | none => some (entries ++ [(key, .table .header [])])
      | some (.table .implied inner) => some (replace entries key (.table .header inner))
      | some _ => none)
    .header root

/-- Opens one more table of a header with double brackets. -/
def appendTable? (path : List Key) (key : Key) (root : Entries) : Option Entries :=
  descend? false path
    (fun (_, entries) =>
      match entries.lookup key with
      | none => some (entries ++ [(key, .tables [[]])])
      | some (.tables items) => some (replace entries key (.tables (items ++ [[]])))
      | some _ => none)
    .header root

end Entries

end SuiteSplit.Toml

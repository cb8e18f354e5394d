import SuiteSplit.Batch
import SuiteSplit.Json.Reader
import SuiteSplit.Seconds

/-!
Records and batches as JSON.

Durations are written as seconds. An outcome is a word, and may also be written as an object whose
one key is that word and whose value is null.
-/

namespace SuiteSplit

namespace Duration

/-- The seconds as a number. -/
def toJson (d : Duration) : Json.Value := .number (.ofBinary64 d.toSeconds)

/-- The duration of a number of seconds. A negative number is refused, negative zero is not. -/
def ofJson? : Json.Value → Option Duration
  | .number n =>
    n.toBinary64?.bind fun x => if n.negative ∧ x ≠ .zero then none else ofSeconds? x
  | _ => none

end Duration

namespace Outcome

def toJson (o : Outcome) : Json.Value := .ofText o.word

def ofJson? : Json.Value → Option Outcome
  | .text (some word) => ofWord? (.ofList word)
  | .object [(some word, .null)] => ofWord? (.ofList word)
  | _ => none

end Outcome

namespace TestRecord

def toJson (t : TestRecord) : Json.Value :=
  .ofFields [("classname", .ofText t.classname), ("name", .ofText t.name),
    ("duration", t.duration.toJson), ("result", t.outcome.toJson)]

def ofJson? (v : Json.Value) : Option TestRecord := do
  let [classname, name, duration, outcome] ← v.fields? ["classname", "name", "duration", "result"]
    | none
  pure ⟨← classname.toText?, ← name.toText?, ← Duration.ofJson? duration, ← Outcome.ofJson? outcome⟩

end TestRecord

namespace Batch

def toJson (b : Batch) : Json.Value :=
  .ofFields [("number", .ofNat b.number), ("tests", .array (b.tests.map (·.toJson))),
    ("totalDuration", b.total.toJson)]

def ofJson? (v : Json.Value) : Option Batch := do
  let [number, tests, total] ← v.fields? ["number", "tests", "totalDuration"] | none
  let .array tests := tests | none
  pure ⟨← number.toCount?, ← tests.mapM TestRecord.ofJson?, ← Duration.ofJson? total⟩

def read? (text : String) : Option Batch := (Json.read? text).bind ofJson?

end Batch

end SuiteSplit

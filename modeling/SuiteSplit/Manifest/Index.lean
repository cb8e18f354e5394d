import SuiteSplit.Manifest.Codec
import SuiteSplit.Manifest.Fingerprint
import SuiteSplit.Timestamp

/-!
The index of a published assignment.
-/

namespace SuiteSplit

/-- How many batches were published, what they hold, and when. -/
structure BatchIndex where
  batches : Nat
  tests : Nat
  total : Duration
  fingerprint : String
  generatedAt : Timestamp
deriving DecidableEq, Repr

namespace BatchIndex

def fileName : String := "index.json"

/-- The index of batches that are published at some time. -/
def ofBatches (generatedAt : Timestamp) (bs : List Batch) : BatchIndex where
  batches := bs.length
  tests := bs.foldl (fun n b => n + b.tests.length) 0
  total := Duration.sum (bs.map (·.total))
  fingerprint := Batch.fingerprint bs
  generatedAt := generatedAt

/-- The number of batches. A number that is no signed 64-bit integer counts as the largest one. -/
def batchCount (i : BatchIndex) : Except CountError BatchCount :=
  BatchCount.ofInt (min i.batches maxInt64 : Nat)

def toJson (i : BatchIndex) : Json.Value :=
  .ofFields [("numberOfBatches", .ofNat i.batches), ("totalTests", .ofNat i.tests),
    ("totalDuration", i.total.toJson), ("fingerprint", .ofText i.fingerprint),
    ("generatedAt", .text (some i.generatedAt.print))]

def ofJson? (v : Json.Value) : Option BatchIndex := do
  let [batches, tests, total, fingerprint, generatedAt] ←
    v.fields? ["numberOfBatches", "totalTests", "totalDuration", "fingerprint", "generatedAt"]
    | none
  let generatedAt ← generatedAt.toText?
  pure ⟨← batches.toCount?, ← tests.toCount?, ← Duration.ofJson? total, ← fingerprint.toText?,
    ← Timestamp.read? generatedAt.toList⟩

def read? (text : String) : Option BatchIndex := (Json.read? text).bind ofJson?

def render (i : BatchIndex) : String := i.toJson.render .pretty ++ "\n"

end BatchIndex

end SuiteSplit

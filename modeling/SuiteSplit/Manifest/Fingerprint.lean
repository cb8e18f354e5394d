import SuiteSplit.Batch
import SuiteSplit.Sha256
import SuiteSplit.Text.Utf8

/-!
The fingerprint of an assignment: the SHA-256 hash of a stream of bytes that states every batch
number and, in order, the records of the batch.
-/

namespace SuiteSplit

/-- A record in the stream: class and name, each with a zero behind it, the nanoseconds in sixteen
bytes and the rank of the outcome in one. -/
def TestRecord.stream (t : TestRecord) : List UInt8 :=
  Text.utf8 t.classname ++ 0 :: Text.utf8 t.name ++ 0 :: Sha256.lowBytes 16 t.duration.nanos ++
    [t.outcome.rank.toUInt8]

namespace Batch

/-- A batch in the stream: its number in eight bytes, its records, and a byte that ends it. -/
def stream (b : Batch) : List UInt8 :=
  Sha256.lowBytes 8 b.number ++ b.tests.flatMap (·.stream) ++ [0xff]

def fingerprint (bs : List Batch) : String := Sha256.hex (Sha256.hash (bs.flatMap stream))

end Batch

end SuiteSplit

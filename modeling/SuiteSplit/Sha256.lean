/-!
SHA-256 of a list of bytes.

The message is padded with a one bit, zeros and its length in bits to a whole number of blocks of 64
bytes. Each block of sixteen words is extended to sixty-four, which are mixed into the eight words of
the state one after the other.
-/

namespace SuiteSplit.Sha256

/-- The eight words of the state. -/
structure State where
  a : UInt32
  b : UInt32
  c : UInt32
  d : UInt32
  e : UInt32
  f : UInt32
  g : UInt32
  h : UInt32
deriving DecidableEq, Repr

namespace State

/-- The state before the first block. -/
def initial : State :=
  ⟨0x6a09e667, 0xbb67ae85, 0x3c6ef372, 0xa54ff53a, 0x510e527f, 0x9b05688c, 0x1f83d9ab, 0x5be0cd19⟩

def words (s : State) : List UInt32 := [s.a, s.b, s.c, s.d, s.e, s.f, s.g, s.h]

def add (s t : State) : State :=
  ⟨s.a + t.a, s.b + t.b, s.c + t.c, s.d + t.d, s.e + t.e, s.f + t.f, s.g + t.g, s.h + t.h⟩

end State

def roundConstants : List UInt32 :=
  [0x428a2f98, 0x71374491, 0xb5c0fbcf, 0xe9b5dba5, 0x3956c25b, 0x59f111f1, 0x923f82a4, 0xab1c5ed5,
   0xd807aa98, 0x12835b01, 0x243185be, 0x550c7dc3, 0x72be5d74, 0x80deb1fe, 0x9bdc06a7, 0xc19bf174,
   0xe49b69c1, 0xefbe4786, 0x0fc19dc6, 0x240ca1cc, 0x2de92c6f, 0x4a7484aa, 0x5cb0a9dc, 0x76f988da,
   0x983e5152, 0xa831c66d, 0xb00327c8, 0xbf597fc7, 0xc6e00bf3, 0xd5a79147, 0x06ca6351, 0x14292967,
   0x27b70a85, 0x2e1b2138, 0x4d2c6dfc, 0x53380d13, 0x650a7354, 0x766a0abb, 0x81c2c92e, 0x92722c85,
   0xa2bfe8a1, 0xa81a664b, 0xc24b8b70, 0xc76c51a3, 0xd192e819, 0xd6990624, 0xf40e3585, 0x106aa070,
   0x19a4c116, 0x1e376c08, 0x2748774c, 0x34b0bcb5, 0x391c0cb3, 0x4ed8aa4a, 0x5b9cca4f, 0x682e6ff3,
   0x748f82ee, 0x78a5636f, 0x84c87814, 0x8cc70208, 0x90befffa, 0xa4506ceb, 0xbef9a3f7, 0xc67178f2]

def rotateRight (x n : UInt32) : UInt32 := (x >>> n) ||| (x <<< (32 - n))

/-- The word with the given bytes, the highest one first. -/
def wordOfBytes (bytes : List UInt8) : UInt32 :=
  bytes.foldl (fun w b => (w <<< 8) ||| b.toUInt32) 0

/-- The bytes of a number, the lowest one first. -/
def lowBytes : Nat → Nat → List UInt8
  | 0, _ => []
  | width + 1, n => n.toUInt8 :: lowBytes width (n / 256)

/-- The bytes of a word, the highest one first. -/
def bytesOfWord (w : UInt32) : List UInt8 := (lowBytes 4 w.toNat).reverse

/-- Splits a list into pieces of a size; the last piece may be shorter. -/
def pieces {α : Type} (size : Nat) (xs : List α) : List (List α) :=
  if h : xs = [] ∨ size = 0 then []
  else xs.take size :: pieces size (xs.drop size)
termination_by xs.length
decreasing_by
  have : xs.length ≠ 0 := by
    intro h0
    exact h (.inl (List.length_eq_zero_iff.1 h0))
  simp only [List.length_drop]
  omega

/-- Bytes in a block. -/
def blockSize : Nat := 64

/-- The message with its padding. -/
def pad (message : List UInt8) : List UInt8 :=
  let used := (message.length + 9) % blockSize
  let zeros := if used = 0 then 0 else blockSize - used
  message ++ 0x80 :: List.replicate zeros 0 ++ (lowBytes 8 (8 * message.length)).reverse

/-- The next word behind the given ones, which stand in reverse order. -/
def nextWord (ws : List UInt32) : UInt32 :=
  let at2 := ws.getD 1 0
  let at15 := ws.getD 14 0
  let s0 := rotateRight at15 7 ^^^ rotateRight at15 18 ^^^ (at15 >>> 3)
  let s1 := rotateRight at2 17 ^^^ rotateRight at2 19 ^^^ (at2 >>> 10)
  ws.getD 15 0 + s0 + ws.getD 6 0 + s1

/-- The sixteen words of a block, extended to sixty-four. -/
def schedule (block : List UInt8) : List UInt32 :=
  let words := (pieces 4 block).map wordOfBytes
  ((List.range 48).foldl (fun ws _ => nextWord ws :: ws) words.reverse).reverse

def round (s : State) (constant word : UInt32) : State :=
  let s1 := rotateRight s.e 6 ^^^ rotateRight s.e 11 ^^^ rotateRight s.e 25
  let choice := (s.e &&& s.f) ^^^ ((s.e ^^^ 0xffffffff) &&& s.g)
  let t1 := s.h + s1 + choice + constant + word
  let s0 := rotateRight s.a 2 ^^^ rotateRight s.a 13 ^^^ rotateRight s.a 22
  let majority := (s.a &&& s.b) ^^^ (s.a &&& s.c) ^^^ (s.b &&& s.c)
  ⟨t1 + (s0 + majority), s.a, s.b, s.c, s.d + t1, s.e, s.f, s.g⟩

def compress (s : State) (block : List UInt8) : State :=
  s.add ((roundConstants.zip (schedule block)).foldl (fun t (k, w) => round t k w) s)

/-- The thirty-two bytes of the hash. -/
def hash (message : List UInt8) : List UInt8 :=
  ((pieces blockSize (pad message)).foldl compress .initial).words.flatMap bytesOfWord

/-- Bytes as lowercase hexadecimal digits. -/
def hex (bytes : List UInt8) : String :=
  .ofList (bytes.flatMap fun b => [Nat.digitChar (b.toNat / 16), Nat.digitChar (b.toNat % 16)])

end SuiteSplit.Sha256

/-!
Texts as bytes in UTF-8.

Bytes that are no text are shown with a replacement character for each part that cannot be read: a
byte that starts nothing, or the longest front of a character that is cut short.
-/

namespace SuiteSplit.Text

/-- The bytes of a text. -/
def utf8 (s : String) : List UInt8 := s.toList.flatMap String.utf8EncodeChar

/-- The text of bytes; none if they are no text. -/
def ofUtf8? (bytes : List UInt8) : Option String := String.fromUTF8? bytes.toByteArray

/-- The values of the byte behind a first byte, and the number of bytes behind that one; none for a
byte that starts no character of more than one byte. -/
def continuation? (first : UInt8) : Option (UInt8 × UInt8 × Nat) :=
  if first < 0xC2 then none
  else if first < 0xE0 then some (0x80, 0xBF, 0)
  else if first = 0xE0 then some (0xA0, 0xBF, 1)
  else if first = 0xED then some (0x80, 0x9F, 1)
  else if first < 0xF0 then some (0x80, 0xBF, 1)
  else if first = 0xF0 then some (0x90, 0xBF, 2)
  else if first < 0xF4 then some (0x80, 0xBF, 2)
  else if first = 0xF4 then some (0x80, 0x8F, 2)
  else none

/-- The bytes that belong to a first byte, as far as they are there, and whether all are there. -/
def belonging (first : UInt8) (rest : List UInt8) : List UInt8 × Bool :=
  match continuation? first, rest with
  | none, _ => ([], first < 0x80)
  | some _, [] => ([], false)
  | some (low, high, more), second :: rest =>
    if low ≤ second ∧ second ≤ high then
      let others := (rest.take more).takeWhile fun b => 0x80 ≤ b && b ≤ 0xBF
      (second :: others, others.length = more)
    else ([], false)

/-- The character that takes the place of what cannot be read. -/
def replacement : Char := '\ufffd'

/-- The text of bytes, with replacement characters. -/
def shown (bytes : List UInt8) : List Char :=
  match bytes with
  | [] => []
  | first :: rest =>
    let (others, whole) := belonging first rest
    let c := if whole then (ofUtf8? (first :: others)).map String.toList else none
    c.getD [replacement] ++ shown (rest.drop others.length)
termination_by bytes.length
decreasing_by
  simp only [List.length_drop, List.length_cons]
  omega

end SuiteSplit.Text

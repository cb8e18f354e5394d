import SuiteSplit.Text.CodeSet

/-!
White space.

Three sets are in use: the White_Space property, the four blanks of markup, and the ASCII white
space that adds the form feed to them.
-/

namespace SuiteSplit.Text

/-- The White_Space property. -/
def whiteSpace : CodeSet :=
  ⟨[⟨0x09, 0x0D⟩, ⟨0x20, 0x20⟩, ⟨0x85, 0x85⟩, ⟨0xA0, 0xA0⟩, ⟨0x1680, 0x1680⟩, ⟨0x2000, 0x200A⟩,
    ⟨0x2028, 0x2029⟩, ⟨0x202F, 0x202F⟩, ⟨0x205F, 0x205F⟩, ⟨0x3000, 0x3000⟩]⟩

/-- A character with the White_Space property. -/
def isWhiteSpace (c : Char) : Bool := whiteSpace.contains c

/-- Space, tab, line feed and carriage return. -/
def isBlank (c : Char) : Bool := c = ' ' || c = '\t' || c = '\n' || c = '\r'

/-- Blanks and the form feed. -/
def isAsciiSpace (c : Char) : Bool := isBlank c || c = '\x0c'

/-- Drops characters of a class from the end. -/
def trimEnd (p : Char → Bool) (cs : List Char) : List Char := (cs.reverse.dropWhile p).reverse

def trim (p : Char → Bool) (cs : List Char) : List Char := trimEnd p (cs.dropWhile p)

end SuiteSplit.Text

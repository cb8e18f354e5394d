import SuiteSplit.Text.Property

/-!
Text shown between quotes.

Quotes, backslashes and the usual control characters have short escapes. Other characters that a
reader could not see stand as their code points: controls, formats, unassigned and private ones,
separators other than the space, and marks that would join the character before them.
-/

namespace SuiteSplit.Text

/-- Characters that have no shape of their own on a line. -/
def unprintable : CodeSet :=
  let shapeless := [Category.control, .format, .surrogate, .privateUse, .lineSeparator,
    .paragraphSeparator, .spaceSeparator].foldl (fun s c => CodeSet.union s c.members) .empty
  ((Category.assignedSet.diff shapeless).union (.singleton ' ')).complement

/-- Characters that stand as their code points. -/
def escapedSet : CodeSet := unprintable.union graphemeExtend

def quoteChar (c : Char) : List Char :=
  match c with
  | '\x00' => ['\\', '0']
  | '\t' => ['\\', 't']
  | '\r' => ['\\', 'r']
  | '\n' => ['\\', 'n']
  | '"' => ['\\', '"']
  | '\\' => ['\\', '\\']
  | _ =>
    if escapedSet.contains c then
      ['\\', 'u', '\x7b'] ++ Nat.toDigits 16 c.toNat ++ ['\x7d']
    else [c]

def quote (cs : List Char) : String :=
  String.ofList ('"' :: cs.flatMap quoteChar ++ ['"'])

end SuiteSplit.Text

import SuiteSplit.Path
import SuiteSplit.Pattern.Reader

/-!
Patterns that choose report files by their names.
-/

namespace SuiteSplit

/-- A pattern together with its text. -/
structure NamePattern where
  text : String
  pattern : Pattern
deriving Repr

namespace NamePattern

/-- The text of the pattern that is used without a setting. -/
def standardText : String := "^TEST-.*\\.xml$"

def ofText? (text : String) : Option NamePattern :=
  (Pattern.read? text).map fun pattern => ⟨text, pattern⟩

/-- The pattern that is used without a setting: reports start with `TEST-` and end with `.xml`. -/
def standard : NamePattern := (ofText? standardText).getD ⟨standardText, .empty⟩

/-- The last name of the path is text in which the pattern matches. -/
def matchesPath (p : NamePattern) (path : Path) : Bool :=
  ((path.fileName?).bind Text.ofUtf8?).any fun name => p.pattern.matchesIn name.toList

end NamePattern

end SuiteSplit

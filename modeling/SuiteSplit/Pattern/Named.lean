import SuiteSplit.Text.Property
import SuiteSplit.Text.Script

/-!
Sets of characters that patterns refer to by name: general categories and their groups, scripts,
properties, and the classes of POSIX.

Names are compared loosely: case, blanks, underscores, hyphens and an `is` in front do not count.
-/

namespace SuiteSplit.Pattern

open Text

/-- Drops what does not count in a name. -/
def looseName (name : List Char) : List Char :=
  let significant (cs : List Char) : List Char :=
    (cs.filter fun c => c ≠ ' ' && c ≠ '_' && c ≠ '-' && c.toNat < 0x80).map Char.toLower
  let bare := significant (name.drop 2)
  if (name.take 2).map Char.toLower = ['i', 's'] then
    if bare = ['c'] then ['i', 's', 'c'] else bare
  else significant name

def categoryNames : List (Category × List String) :=
  [(.uppercaseLetter, ["Lu", "Uppercase_Letter"]), (.lowercaseLetter, ["Ll", "Lowercase_Letter"]),
   (.titlecaseLetter, ["Lt", "Titlecase_Letter"]), (.modifierLetter, ["Lm", "Modifier_Letter"]),
   (.otherLetter, ["Lo", "Other_Letter"]), (.nonspacingMark, ["Mn", "Nonspacing_Mark"]),
   (.spacingMark, ["Mc", "Spacing_Mark"]), (.enclosingMark, ["Me", "Enclosing_Mark"]),
   (.decimalNumber, ["Nd", "Decimal_Number", "digit"]), (.letterNumber, ["Nl", "Letter_Number"]),
   (.otherNumber, ["No", "Other_Number"]), (.connectorPunctuation, ["Pc", "Connector_Punctuation"]),
   (.dashPunctuation, ["Pd", "Dash_Punctuation"]), (.openPunctuation, ["Ps", "Open_Punctuation"]),
   (.closePunctuation, ["Pe", "Close_Punctuation"]),
   (.initialPunctuation, ["Pi", "Initial_Punctuation"]),
   (.finalPunctuation, ["Pf", "Final_Punctuation"]),
   (.otherPunctuation, ["Po", "Other_Punctuation"]), (.mathSymbol, ["Sm", "Math_Symbol"]),
   (.currencySymbol, ["Sc", "Currency_Symbol"]), (.modifierSymbol, ["Sk", "Modifier_Symbol"]),
   (.otherSymbol, ["So", "Other_Symbol"]), (.spaceSeparator, ["Zs", "Space_Separator"]),
   (.lineSeparator, ["Zl", "Line_Separator"]), (.paragraphSeparator, ["Zp", "Paragraph_Separator"]),
   (.control, ["Cc", "Control", "cntrl"]), (.format, ["Cf", "Format"]),
   (.privateUse, ["Co", "Private_Use"]), (.unassigned, ["Cn", "Unassigned"])]

def groupNames : List (List Category × List String) :=
  [([.uppercaseLetter, .lowercaseLetter, .titlecaseLetter], ["LC", "Cased_Letter"]),
   ([.uppercaseLetter, .lowercaseLetter, .titlecaseLetter, .modifierLetter, .otherLetter],
     ["L", "Letter"]),
   ([.nonspacingMark, .spacingMark, .enclosingMark], ["M", "Mark", "Combining_Mark"]),
   ([.decimalNumber, .letterNumber, .otherNumber], ["N", "Number"]),
   ([.connectorPunctuation, .dashPunctuation, .openPunctuation, .closePunctuation,
     .initialPunctuation, .finalPunctuation, .otherPunctuation], ["P", "Punctuation", "punct"]),
   ([.mathSymbol, .currencySymbol, .modifierSymbol, .otherSymbol], ["S", "Symbol"]),
   ([.spaceSeparator, .lineSeparator, .paragraphSeparator], ["Z", "Separator"]),
   ([.control, .format, .surrogate, .privateUse, .unassigned], ["C", "Other"])]

/-- A name in a list of names, loosely compared. -/
def isNamed (loose : List Char) (names : List String) : Bool :=
  names.any fun name => looseName name.toList = loose

def anyCode : CodeSet := .range 0 CodeSet.lastCode

/-- The set of a category, of a group of them, or of one of the three sets that go with them. -/
def category? (loose : List Char) : Option CodeSet :=
  if isNamed loose ["any"] then some anyCode
  else if isNamed loose ["ascii"] then some (.range 0 0x7F)
  else if isNamed loose ["assigned"] then some Category.assignedSet
  else
    match categoryNames.find? fun (_, names) => isNamed loose names with
    | some (c, _) => some c.set
    | none =>
      (groupNames.find? fun (_, names) => isNamed loose names).map fun (cs, _) =>
        cs.foldl (fun s c => s.union c.set) .empty

def script? (loose : List Char) : Option CodeSet :=
  (Script.all.find? fun s => isNamed loose s.names).map (·.set)

/-- The properties that hold or do not hold of a character. -/
def properties : List (List String × CodeSet) :=
  [(["Alphabetic", "Alpha"], alphabetic), (["White_Space", "WSpace", "space"], whiteSpace),
   (["Uppercase", "Upper"], uppercase), (["Lowercase", "Lower"], lowercase), (["Cased"], cased),
   (["Math"], math),
   (["ID_Start", "IDS"], idStart), (["ID_Continue", "IDC"], idContinue),
   (["XID_Start", "XIDS"], xidStart), (["XID_Continue", "XIDC"], xidContinue),
   (["Grapheme_Extend", "Gr_Ext"], graphemeExtend), (["Dash"], dash), (["Emoji"], emoji),
   (["Ideographic", "Ideo"], ideographic), (["Hex_Digit", "Hex"], hexDigit),
   (["Join_Control", "Join_C"], joinControl)]

def property? (loose : List Char) : Option CodeSet :=
  (properties.find? fun (names, _) => isNamed loose names).map (·.2)

/-- The set with a name of its own. Three names are those of categories before those of
properties. -/
def named? (name : List Char) : Option CodeSet :=
  let loose := looseName name
  let property := if isNamed loose ["cf", "sc", "lc"] then none else property? loose
  property.orElse fun _ => (category? loose).orElse fun _ => script? loose

def valued? (property value : List Char) : Option CodeSet :=
  let loose := looseName property
  if isNamed loose ["gc", "General_Category"] then category? (looseName value)
  else if isNamed loose ["sc", "Script", "scx", "Script_Extensions"] then script? (looseName value)
  else none

def posix? (name : String) : Option CodeSet :=
  let letters : CodeSet := ⟨[⟨'A'.toNat, 'Z'.toNat⟩, ⟨'a'.toNat, 'z'.toNat⟩]⟩
  let digits := CodeSet.range '0'.toNat '9'.toNat
  match name with
  | "alnum" => some (digits.union letters)
  | "alpha" => some letters
  | "ascii" => some (.range 0 0x7F)
  | "blank" => some (.ofChars ['\t', ' '])
  | "cntrl" => some ((CodeSet.range 0 0x1F).union (.range 0x7F 0x7F))
  | "digit" => some digits
  | "graph" => some (.range '!'.toNat '~'.toNat)
  | "lower" => some (.range 'a'.toNat 'z'.toNat)
  | "print" => some (.range ' '.toNat '~'.toNat)
  | "punct" =>
    some ⟨[⟨'!'.toNat, '/'.toNat⟩, ⟨':'.toNat, '@'.toNat⟩, ⟨'['.toNat, 0x60⟩, ⟨0x7B, '~'.toNat⟩]⟩
  | "space" => some ((CodeSet.range 0x09 0x0D).union (.singleton ' '))
  | "upper" => some (.range 'A'.toNat 'Z'.toNat)
  | "word" => some asciiWordSet
  | "xdigit" =>
    some ⟨[⟨'0'.toNat, '9'.toNat⟩, ⟨'A'.toNat, 'F'.toNat⟩, ⟨'a'.toNat, 'f'.toNat⟩]⟩
  | _ => none

end SuiteSplit.Pattern

import SuiteSplit.Report.Time
import SuiteSplit.TestRecord
import SuiteSplit.Text.Quoted
import SuiteSplit.Xml.Attribute
import SuiteSplit.Xml.Reference

/-!
Test reports of an earlier run.

A report is a markup document with one root element. Its `testcase` elements, at any depth, give the
records; the other elements count only where they tell how a test ended. The reader goes once over
the events of the document and keeps the names of the open elements and the test case whose content
it is in.
-/

namespace SuiteSplit

namespace Report

/-- Why a document is no test report. -/
inductive Defect
  | malformed (fault : Xml.Fault)
  | unmatchedEnd (found : List Char) (offset : Nat)
  | mismatchedEnd (expected found : List Char) (offset : Nat)
  | secondRoot (offset : Nat)
  | strayText (offset : Nat)
  | strayCdata (offset : Nat)
  | attributeList (error : Xml.AttributeError)
  | attributeValue (error : Xml.ReferenceError)
  | unclosed (name : List Char)
  | noRoot
  | missingAttribute (key : String)
  | invalidTime (raw : List Char)
deriving DecidableEq, Repr

/-- What is wrong with the markup, if it is the markup. -/
def Defect.inMarkup? : Defect → Option String
  | malformed fault => some s!"{fault.cause.message} (at byte {fault.offset})"
  | unmatchedEnd found offset =>
    let name := String.ofList found
    some s!"ill-formed document: close tag `</{name}>` does not match any open tag (at byte {offset})"
  | mismatchedEnd expected found offset =>
    let (expected, found) := (String.ofList expected, String.ofList found)
    some <| s!"ill-formed document: expected `</{expected}>`, but `</{found}>` was found" ++
      s!" (at byte {offset})"
  | secondRoot offset => some s!"unexpected element after the root element (at byte {offset})"
  | strayText offset => some s!"unexpected text outside the root element (at byte {offset})"
  | strayCdata offset => some s!"unexpected CDATA outside the root element (at byte {offset})"
  | attributeList error => some error.message
  | attributeValue error => some error.message
  | _ => none

def Defect.message : Defect → String
  | unclosed name => s!"unexpected end of document, <{String.ofList name}> is not closed"
  | noRoot => "document is empty"
  | missingAttribute key => s!"<testcase> is missing the `{key}` attribute"
  | invalidTime raw => s!"invalid testcase time {Text.quote raw}"
  | defect => "XML syntax error: " ++ defect.inMarkup?.getD ""

/-- What the attributes of a `testcase` have said so far. -/
structure CaseAttributes where
  classname : Option (List Char) := none
  name : Option (List Char) := none
  duration : Duration := .zero
deriving Repr

def CaseAttributes.take (known : CaseAttributes) (a : Xml.Attribute) :
    Except Defect CaseAttributes :=
  match Xml.Reference.expand a.value with
  | .error e => .error (.attributeValue e)
  | .ok value =>
    if a.key = "classname".toList then .ok { known with classname := some value }
    else if a.key = "name".toList then .ok { known with name := some value }
    else if a.key = "time".toList then
      match Duration.ofTimeText? value with
      | some duration => .ok { known with duration }
      | none => .error (.invalidTime value)
    else .ok known

/-- A test case whose content is being read. -/
structure OpenCase where
  classname : String
  name : String
  duration : Duration
  failed : Bool := false
  skipped : Bool := false
deriving DecidableEq, Repr

namespace OpenCase

/-- The test case of a tag. The first fault of its attributes counts; what is missing counts only
behind the last of them. -/
def ofTag (tag : Xml.Tag) : Except Defect OpenCase :=
  match tag.attributes.fold CaseAttributes.take Defect.attributeList {} with
  | .error e => .error e
  | .ok known =>
    match known.classname, known.name with
    | none, _ => .error (.missingAttribute "classname")
    | _, none => .error (.missingAttribute "name")
    | some classname, some name =>
      .ok { classname := .ofList classname, name := .ofList name, duration := known.duration }

/-- Takes in that an element of a name stands in the test case. -/
def mark (c : OpenCase) (name : List Char) : OpenCase :=
  if name = "failure".toList ∨ name = "error".toList then { c with failed := true }
  else if name = "skipped".toList then { c with skipped := true }
  else c

/-- How the test ended: a failure counts before a skip. -/
def outcome (c : OpenCase) : Outcome :=
  if c.failed then .failed else if c.skipped then .skipped else .successful

def toRecord (c : OpenCase) : TestRecord := ⟨c.classname, c.name, c.duration, c.outcome⟩

end OpenCase

/-- What was read of a document: the names of the open elements, the innermost first, whether there
was a root element, the test case whose content is being read, and the records. -/
structure Progress where
  openNames : List (List Char) := []
  seenRoot : Bool := false
  current : Option OpenCase := none
  records : List TestRecord := []
deriving DecidableEq, Repr

namespace Progress

/-- A document that closed its root element can open no other. -/
def rootClosed (p : Progress) : Bool := p.seenRoot && p.openNames.isEmpty

def isTestcase (tag : Xml.Tag) : Bool := tag.name = "testcase".toList

def openTag (p : Progress) (tag : Xml.Tag) : Except Defect Progress :=
  if isTestcase tag then
    (OpenCase.ofTag tag).map fun c =>
      { p with seenRoot := true, openNames := tag.name :: p.openNames, current := some c }
  else
    .ok { p with
      seenRoot := true, openNames := tag.name :: p.openNames
      current := p.current.map (·.mark tag.name) }

def emptyTag (p : Progress) (tag : Xml.Tag) : Except Defect Progress :=
  if isTestcase tag then
    (OpenCase.ofTag tag).map fun c =>
      { p with seenRoot := true, records := p.records ++ [c.toRecord] }
  else .ok { p with seenRoot := true, current := p.current.map (·.mark tag.name) }

/-- Takes an end tag in. It has to close the innermost element. -/
def closeTag (p : Progress) (name : List Char) (offset : Nat) : Except Defect Progress :=
  match p.openNames with
  | [] => .error (.unmatchedEnd name offset)
  | expected :: outer =>
    if expected ≠ name then .error (.mismatchedEnd expected name offset)
    else
      match if name = "testcase".toList then p.current else none with
      | some c =>
        .ok { p with openNames := outer, current := none, records := p.records ++ [c.toRecord] }
      | none => .ok { p with openNames := outer }

def step (p : Progress) (item : Xml.Item) : Except Defect Progress :=
  match item.event with
  | .text body =>
    if p.openNames.isEmpty && !body.all Text.isAsciiSpace then .error (.strayText item.stop)
    else .ok p
  | .cdata _ => if p.openNames.isEmpty then .error (.strayCdata item.stop) else .ok p
  | .startTag tag => if p.rootClosed then .error (.secondRoot item.stop) else p.openTag tag
  | .emptyTag tag => if p.rootClosed then .error (.secondRoot item.stop) else p.emptyTag tag
  | .endTag name => p.closeTag name item.start
  | .aside => .ok p

/-- What a document gives at its end. -/
def finish (p : Progress) : Except Defect (List TestRecord) :=
  match p.openNames with
  | name :: _ => .error (.unclosed name)
  | [] => if p.seenRoot then .ok p.records else .error .noRoot

end Progress

/-- The records of a report, in the order in which the reader completes them. -/
def ofEvents (events : Reading Xml.Item Xml.Fault) : Except Defect (List TestRecord) :=
  (events.fold Progress.step Defect.malformed {}).bind Progress.finish

def read (text : String) : Except Defect (List TestRecord) := ofEvents (Xml.events text.toList)

end Report

end SuiteSplit

import SuiteSplit.Reading
import SuiteSplit.Text.Blank
import SuiteSplit.Text.Cut

/-!
Markup documents as a sequence of events.

A document alternates text and markup. The reader recognises where each construct ends and no more:
it does not look into tags, and it does not compare an end tag with its start tag. Positions are
byte offsets from the start of the text, after a byte order mark.
-/

namespace SuiteSplit.Xml

/-- What stands between the brackets of a start tag, without the slash of an empty element. -/
structure Tag where
  content : List Char
deriving DecidableEq, Repr

/-- The name of the element: everything up to the first blank. -/
def Tag.name (t : Tag) : List Char := t.content.takeWhile fun c => !Text.isBlank c

/-- What a document consists of. -/
inductive Event
  | text (body : List Char)
  | cdata (body : List Char)
  | startTag (tag : Tag)
  | emptyTag (tag : Tag)
  | endTag (name : List Char)
  /-- Comments, processing instructions and document type declarations. -/
  | aside
deriving DecidableEq, Repr

/-- An event with the offset at which it starts and the offset behind it. -/
structure Item where
  event : Event
  start : Nat
  stop : Nat
deriving DecidableEq, Repr

/-- Constructs that have an end of their own. -/
inductive Construct
  | instruction
  | comment
  | doctype
  | cdata
  | tag
deriving DecidableEq, Repr

/-- Why a text is no sequence of events. -/
inductive Malformation
  | unknownMarkup
  | unclosed (construct : Construct)
  | namelessDoctype
deriving DecidableEq, Repr

def Construct.notClosed : Construct → String
  | instruction => "processing instruction or xml declaration not closed: `?>`"
  | comment => "comment not closed: `-->`"
  | doctype => "DOCTYPE not closed: `>`"
  | cdata => "CDATA not closed: `]]>`"
  | tag => "tag not closed: `>`"

def Malformation.message : Malformation → String
  | unknownMarkup => "syntax error: unknown or missed symbol in markup"
  | unclosed construct => s!"syntax error: {construct.notClosed} not found before end of input"
  | namelessDoctype =>
    "ill-formed document: `<!DOCTYPE>` declaration does not contain a name of a document type"

/-- A malformation and its place. -/
structure Fault where
  cause : Malformation
  offset : Nat
deriving DecidableEq, Repr

/-- One construct of markup: its event, the bytes that it takes behind the `<`, and the rest. -/
structure Markup where
  event : Event
  size : Nat
  rest : List Char

namespace Markup

/-- Markup that opens with `<!`. -/
def declaration : List Char → Except (Malformation × Nat) Markup
  | '[' :: cs =>
    if "CDATA[".toList.isPrefixOf cs then
      match Text.cutAt "]]>".toList (cs.drop 6) with
      | some (body, rest) => .ok ⟨.cdata body, 11 + Text.width body, rest⟩
      | none => .error (.unclosed .cdata, 0)
    else .error (.unclosed .cdata, 0)
  | '-' :: '-' :: cs =>
    match Text.cutAt "-->".toList cs with
    | some (body, rest) => .ok ⟨.aside, 6 + Text.width body, rest⟩
    | none => .error (.unclosed .comment, 0)
  | '-' :: _ => .error (.unclosed .comment, 0)
  | c :: cs =>
    if c = 'D' ∨ c = 'd' then
      match Text.cutBalanced 0 (c :: cs) with
      | some (inside, rest) =>
        if (inside.take 7).map Char.toUpper ≠ "DOCTYPE".toList then .error (.unclosed .doctype, 0)
        else if (inside.drop 7).all Text.isBlank then
          .error (.namelessDoctype, 2 + Text.width inside)
        else .ok ⟨.aside, 2 + Text.width inside, rest⟩
      | none => .error (.unclosed .doctype, 0)
    else .error (.unknownMarkup, 0)
  | [] => .error (.unknownMarkup, 0)

/-- A processing instruction, behind its first question mark. -/
def instruction (cs : List Char) : Except (Malformation × Nat) Markup :=
  match cs with
  | '>' :: _ => .error (.unclosed .instruction, 0)
  | _ =>
    match Text.cutAt "?>".toList cs with
    | some (body, rest) => .ok ⟨.aside, 3 + Text.width body, rest⟩
    | none => .error (.unclosed .instruction, 0)

/-- A tag; `make` gives the event of what stands between its brackets. -/
def tag (make : List Char → Event) (cs : List Char) : Except (Malformation × Nat) Markup :=
  match Text.cutTag none cs with
  | some (inside, rest) => .ok ⟨make inside, 1 + Text.width inside, rest⟩
  | none => .error (.unclosed .tag, 0)

/-- The event of a start tag or of an empty element. -/
def opening (inside : List Char) : Event :=
  if inside.getLast? = some '/' then .emptyTag ⟨inside.dropLast⟩ else .startTag ⟨inside⟩

/-- The name in an end tag. Blanks behind a name are left out, but where there is no name the blanks
stand for it. -/
def closingName (content : List Char) : List Char :=
  let name := Text.trimEnd Text.isBlank content
  if name = [] then content else name

/-- Reads what stands behind a `<`. An error comes with its offset from the `<`. -/
def read : List Char → Except (Malformation × Nat) Markup
  | '!' :: cs => declaration cs
  | '?' :: cs => instruction cs
  | '/' :: cs => tag (fun inside => .endTag (closingName (inside.drop 1))) ('/' :: cs)
  | cs => tag opening cs

theorem declaration_rest {cs : List Char} {m : Markup} (h : declaration cs = .ok m) :
    m.rest.length < cs.length := by
  unfold declaration at h
  split at h
  · split at h
    · split at h
      · next hc =>
        have := congrArg List.length (Text.cutAt_eq_append hc)
        simp only [List.length_append, List.length_drop] at this
        cases h
        simp only [List.length_cons]
        omega
      · cases h
    · cases h
  · split at h
    · next hc =>
      have := congrArg List.length (Text.cutAt_eq_append hc)
      simp only [List.length_append] at this
      cases h
      simp only [List.length_cons]
      omega
    · cases h
  · cases h
  · split at h
    · split at h
      · next hc =>
        have := congrArg List.length (Text.cutBalanced_eq_append hc)
        simp only [List.length_append, List.length_cons] at this
        split at h
        · cases h
        · split at h
          · cases h
          · cases h
            simp only [List.length_cons]
            omega
      · cases h
    · cases h
  · cases h

theorem instruction_rest {cs : List Char} {m : Markup} (h : instruction cs = .ok m) :
    m.rest.length ≤ cs.length := by
  unfold instruction at h
  split at h
  · cases h
  · split at h
    · next hc =>
      have := congrArg List.length (Text.cutAt_eq_append hc)
      simp only [List.length_append] at this
      cases h
      simp only
      omega
    · cases h

theorem tag_rest {make : List Char → Event} {cs : List Char} {m : Markup}
    (h : tag make cs = .ok m) : m.rest.length ≤ cs.length := by
  unfold tag at h
  split at h
  · next hc =>
    have := congrArg List.length (Text.cutTag_eq_append hc)
    simp only [List.length_append, List.length_cons] at this
    cases h
    simp only
    omega
  · cases h

/-- Markup never gives back more than it was given. -/
theorem read_rest {cs : List Char} {m : Markup} (h : read cs = .ok m) :
    m.rest.length ≤ cs.length := by
  unfold read at h
  split at h
  · have := declaration_rest h
    simp only [List.length_cons]
    omega
  · have := instruction_rest h
    simp only [List.length_cons]
    omega
  · exact tag_rest h
  · exact tag_rest h

end Markup

/-- The item of a text, if it is more than blanks. -/
def textItem (body : List Char) (start stop : Nat) (rest : Reading Item Fault) :
    Reading Item Fault :=
  if body = [] then rest
  else rest.cons ⟨.text (Text.trimEnd Text.isBlank body), start, stop⟩

/-- The events of a text that starts at the given offset. -/
def eventsFrom (offset : Nat) (cs : List Char) : Reading Item Fault :=
  let blanks := cs.takeWhile Text.isBlank
  let shown := cs.dropWhile Text.isBlank
  let body := shown.takeWhile (· ≠ '<')
  let start := offset + Text.width blanks
  let bracket := start + Text.width body
  match h : shown.dropWhile (· ≠ '<') with
  | [] => textItem body start bracket .complete
  | _ :: inside =>
    textItem body start bracket <|
      match hm : Markup.read inside with
      | .error (cause, distance) => .stop ⟨cause, bracket + distance⟩
      | .ok markup =>
        (eventsFrom (bracket + 1 + markup.size) markup.rest).cons
          ⟨markup.event, bracket, bracket + 1 + markup.size⟩
termination_by cs.length
decreasing_by
  have h₁ := (List.dropWhile_sublist (l := cs) Text.isBlank).length_le
  have h₂ := (List.dropWhile_sublist (l := cs.dropWhile Text.isBlank) (· ≠ '<')).length_le
  have h₃ := Markup.read_rest hm
  have h₄ := congrArg List.length h
  simp only [List.length_cons, shown] at h₄
  omega

/-- The events of a document. One byte order mark in front is not part of it. -/
def events : List Char → Reading Item Fault
  | '\ufeff' :: cs => eventsFrom 0 cs
  | cs => eventsFrom 0 cs

end SuiteSplit.Xml

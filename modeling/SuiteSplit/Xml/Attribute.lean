import SuiteSplit.Reading
import SuiteSplit.Text.Blank
import SuiteSplit.Text.Cut
import SuiteSplit.Xml.Event

/-!
The attributes of a tag.

A key runs to the next `=` or blank, a value stands between quotes, and blanks may stand around the
`=`. No blank is needed between a value and the next key. Positions are byte offsets from the start
of the tag's name.
-/

namespace SuiteSplit.Xml

/-- A key and the text between the quotes, as it stands there. -/
structure Attribute where
  key : List Char
  value : List Char
deriving DecidableEq, Repr

/-- Why a tag has no list of attributes. -/
inductive AttributeError
  | keyAlone (position : Nat)
  | missingValue (position : Nat)
  | unquotedValue (position : Nat)
  | missingQuote (quote : Char) (position : Nat)
  | duplicate (position previous : Nat)
deriving DecidableEq, Repr

def AttributeError.message : AttributeError → String
  | keyAlone p => s!"position {p}: attribute key must be directly followed by `=` or space"
  | missingValue p => s!"position {p}: `=` must be followed by an attribute value"
  | unquotedValue p => s!"position {p}: attribute value must be enclosed in `\"` or `'`"
  | missingQuote quote p => s!"position {p}: missing closing quote `{quote}` in attribute value"
  | duplicate p previous =>
    s!"position {p}: duplicated attribute, previous declaration at position {previous}"

/-- A place in the text of a tag: its offset and what stands there. -/
structure Place where
  offset : Nat
  rest : List Char
deriving DecidableEq, Repr

namespace Place

/-- The place behind all characters of a class. -/
def skip (p : Char → Bool) (here : Place) : Place :=
  ⟨here.offset + Text.width (here.rest.takeWhile p), here.rest.dropWhile p⟩

theorem skip_length (p : Char → Bool) (here : Place) :
    (here.skip p).rest.length ≤ here.rest.length :=
  (List.dropWhile_sublist p).length_le

end Place

namespace Tag

/-- Characters that a key can contain behind its first one. -/
def inKey (c : Char) : Bool := c ≠ '=' && !Text.isBlank c

/-- The attributes from a place on. The keys before it are given with their offsets. -/
def attributesFrom (seen : List (List Char × Nat)) (here : Place) :
    Reading Attribute AttributeError :=
  let start := here.skip Text.isBlank
  match hs : start.rest with
  | [] => .complete
  | c :: cs =>
    let key := c :: cs.takeWhile inKey
    let behind := (Place.mk (start.offset + c.utf8Size) cs).skip inKey |>.skip Text.isBlank
    match hb : behind.rest with
    | '=' :: afterSign =>
      match seen.find? (·.1 = key) with
      | some (_, previous) => .stop (.duplicate start.offset previous)
      | none =>
        let opening := (Place.mk (behind.offset + 1) afterSign).skip Text.isBlank
        match ho : opening.rest with
        | [] => .stop (.missingValue opening.offset)
        | quote :: body =>
          if quote = '"' ∨ quote = '\'' then
            match hc : Text.cutAt [quote] body with
            | some (value, after) =>
              (attributesFrom ((key, start.offset) :: seen)
                ⟨opening.offset + 2 + Text.width value, after⟩).cons ⟨key, value⟩
            | none => .stop (.missingQuote quote (opening.offset + 1 + Text.width body))
          else .stop (.unquotedValue opening.offset)
    | _ => .stop (.keyAlone behind.offset)
termination_by here.rest.length
decreasing_by
  have h₁ := here.skip_length Text.isBlank
  have h₂ := (Place.mk (start.offset + c.utf8Size) cs).skip_length inKey
  have h₃ := ((Place.mk (start.offset + c.utf8Size) cs).skip inKey).skip_length Text.isBlank
  have h₄ := (Place.mk (behind.offset + 1) afterSign).skip_length Text.isBlank
  have h₅ := congrArg List.length (Text.cutAt_eq_append hc)
  have e₁ := congrArg List.length hs
  have e₂ := congrArg List.length hb
  have e₃ := congrArg List.length ho
  simp only [List.length_append, List.length_cons, List.length_nil, start, behind, opening] at *
  omega

/-- The attributes of a tag, up to the first fault in their list. -/
def attributes (t : Tag) : Reading Attribute AttributeError :=
  attributesFrom [] ⟨Text.width t.name, t.content.drop t.name.length⟩

end Tag

end SuiteSplit.Xml

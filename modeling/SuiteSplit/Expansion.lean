import SuiteSplit.Path
import SuiteSplit.Text.Property

/-!
Variables and the home directory in paths of the settings.

`$NAME` and `$` with a name in braces stand for a variable; in braces a default may follow the name
behind `:-`. Two dollars stand for one. Values are not looked at again. A tilde in front, alone or
before a slash, stands for the home directory.
-/

namespace SuiteSplit

/-- The variables of the environment. -/
structure Environment where
  entries : List (String × String)
deriving Repr

namespace Environment

def find? (env : Environment) (name : String) : Option String :=
  env.entries.lookup name

/-- The home directory, if there is one. -/
def home? (env : Environment) : Option String := (env.find? "HOME").filter (· ≠ "")

end Environment

namespace Expansion

/-- A character of the name of a variable that stands without braces. -/
def inName (c : Char) : Bool := c = '_' || Text.alphanumeric.contains c

/-- The value of what stands between braces: a variable, or else its default, if there is one. A
text that starts with `:-` is a name as a whole. -/
def braced? (env : Environment) (body : List Char) : Option (List Char) :=
  match Text.cutAt ":-".toList body with
  | some (c :: name, fallback) =>
    some (((env.find? (.ofList (c :: name))).map String.toList).getD fallback)
  | _ => (env.find? (.ofList body)).map String.toList

/-- Replaces the variables of a text; none if one of them has no value. A brace that is not closed
and a dollar without a name stand for themselves. -/
def substitute? (env : Environment) : List Char → Option (List Char)
  | [] => some []
  | '$' :: '\x7b' :: inside =>
    match h : Text.cutAt ['\x7d'] inside with
    | some (body, rest) =>
      (braced? env body).bind fun value => (substitute? env rest).map (value ++ ·)
    | none => (substitute? env inside).map ('$' :: '\x7b' :: ·)
  | '$' :: '$' :: rest => (substitute? env rest).map ('$' :: ·)
  | '$' :: c :: rest =>
    if inName c then
      (env.find? (.ofList (c :: rest.takeWhile inName))).bind fun value =>
        (substitute? env (rest.dropWhile inName)).map (value.toList ++ ·)
    else (substitute? env (c :: rest)).map ('$' :: ·)
  | c :: rest => (substitute? env rest).map (c :: ·)
termination_by cs => cs.length
decreasing_by
  · have := congrArg List.length (Text.cutAt_eq_append h)
    simp only [List.length_append, List.length_cons, List.length_nil] at *
    omega
  all_goals
    first
    | simp only [List.length_cons]; omega
    | have := (List.dropWhile_sublist (l := rest) inName).length_le
      simp only [List.length_cons]
      omega

/-- The home directory in place of a tilde. -/
def tilde (env : Environment) (cs : List Char) : List Char :=
  match cs, env.home? with
  | ['~'], some home => home.toList
  | '~' :: '/' :: rest, some home => home.toList ++ '/' :: rest
  | _, _ => cs

/-- Expands a text. A tilde counts only where it stands in the text itself. -/
def text? (env : Environment) (text : String) : Option String :=
  (substitute? env text.toList).map fun cs =>
    .ofList (if text.toList.head? = some '~' then tilde env cs else cs)

end Expansion

/-- Expands a path; none if a variable has no value. A path that is no text stays as it is. -/
def Path.expand? (env : Environment) (p : Path) : Option Path :=
  match p.toText? with
  | none => some p
  | some text => (Expansion.text? env text).map Path.ofString

end SuiteSplit

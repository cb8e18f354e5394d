/-!
Reading the options of a command line.

An option is written with its name behind two dashes, or with its letter behind one. Letters of
options without values can share a dash. A value stands behind an equals sign, directly behind a
letter, or in the next argument. An argument that starts with a dash is no value of the option in
front of it, except for a dash alone and for negative numbers behind an option that takes a number.
-/

namespace SuiteSplit

/-- Why the reading of a command line comes to an end early. -/
inductive Stop
  | usage
  | version
  | help
deriving DecidableEq, Repr

/-- How the value of an option is taken into what is known; none where it cannot be. -/
structure ValueForm (σ : Type) where
  isNumber : Bool
  take : String → σ → Option σ

/-- What an option does. -/
inductive Effect (σ : Type)
  | flag (take : σ → Option σ)
  | value (form : ValueForm σ)
  | stop (s : Stop)

/-- An option: its name, its letter and what it does. -/
structure OptionForm (σ : Type) where
  name : String
  letter : Option Char
  effect : Effect σ

namespace CommandLine

variable {σ : Type}

/-- What is known of the options, and the option whose value comes next. -/
structure Progress (σ : Type) where
  known : σ
  awaiting : Option (ValueForm σ) := none

def takeValue (form : ValueForm σ) (value : String) (known : σ) : Except Stop (Progress σ) :=
  match form.take value known with
  | some known => .ok { known }
  | none => .error .usage

/-- What an option leads to, with the value that is attached to it, if there is one. -/
def takeOption (effect : Effect σ) (attached : Option String) (known : σ) :
    Except Stop (Progress σ) :=
  match effect, attached with
  | .value form, some value => takeValue form value known
  | .value form, none => .ok { known, awaiting := some form }
  | .stop s, none => .error s
  | .flag take, none =>
    match take known with
    | some known => .ok { known }
    | none => .error .usage
  | _, some _ => .error .usage

def takeName (forms : List (OptionForm σ)) (name : String) (attached : Option String) (known : σ) :
    Except Stop (Progress σ) :=
  match forms.find? (·.name = name) with
  | some form => takeOption form.effect attached known
  | none => .error .usage

/-- The value that stands directly behind a letter, if there is one. -/
def attachedTo : List Char → Option String
  | [] => none
  | '=' :: value => some (.ofList value)
  | value => some (.ofList value)

/-- Takes options by their letters. What follows the letter of an option with a value is the value. -/
def takeLetters (forms : List (OptionForm σ)) (known : σ) : List Char → Except Stop (Progress σ)
  | [] => .ok { known }
  | c :: cs =>
    match forms.find? (·.letter = some c) with
    | none => .error .usage
    | some form =>
      match form.effect with
      | .value value => takeOption (.value value) (attachedTo cs) known
      | effect =>
        match takeOption effect none known with
        | .error s => .error s
        | .ok progress => takeLetters forms progress.known cs

/-- An argument can be the value of the option in front of it. -/
def canBeValue (isNumber : Bool) (arg : String) : Bool :=
  match arg.toList with
  | '-' :: c :: cs => isNumber && (c :: cs).all Char.isDigit
  | _ => true

/-- Takes an argument that is no value. -/
def takeArgument (forms : List (OptionForm σ)) (known : σ) (arg : String) :
    Except Stop (Progress σ) :=
  match arg.toList with
  | '-' :: '-' :: body =>
    match body.dropWhile (· ≠ '=') with
    | [] => takeName forms (.ofList body) none known
    | _ :: value => takeName forms (.ofList (body.takeWhile (· ≠ '='))) (some (.ofList value)) known
  | '-' :: c :: cs => takeLetters forms known (c :: cs)
  | _ => .error .usage

/-- Reads options up to one of some words, and gives what is known and the arguments from that word
on. Behind two dashes alone nothing may follow. -/
def readOptions (forms : List (OptionForm σ)) (words : List String) (progress : Progress σ) :
    List String → Except Stop (σ × List String)
  | [] =>
    match progress.awaiting with
    | some _ => .error .usage
    | none => .ok (progress.known, [])
  | arg :: rest =>
    match progress.awaiting with
    | some form =>
      if canBeValue form.isNumber arg then
        match takeValue form arg progress.known with
        | .error s => .error s
        | .ok progress => readOptions forms words progress rest
      else .error .usage
    | none =>
      if words.contains arg then .ok (progress.known, arg :: rest)
      else if arg = "--" then if rest = [] then .ok (progress.known, []) else .error .usage
      else
        match takeArgument forms progress.known arg with
        | .error s => .error s
        | .ok progress => readOptions forms words progress rest

end CommandLine

end SuiteSplit

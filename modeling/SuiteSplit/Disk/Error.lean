/-!
Why a call on the disk fails.
-/

namespace SuiteSplit

inductive DiskError
  | notFound
  | busy
  | occupied
  | notDirectory
  | isDirectory
  | invalid
  | nameTooLong
  | notEmpty
  | tooManyLinks
  /-- A path with a zero byte, which no call accepts. -/
  | zeroInPath
  /-- The bytes of a file are no text. -/
  | notText
  /-- Any other error, with its number and its text. -/
  | other (number : Nat) (text : String)
deriving DecidableEq, Repr

namespace DiskError

def message : DiskError → String
  | notFound => "No such file or directory (os error 2)"
  | busy => "Device or resource busy (os error 16)"
  | occupied => "File exists (os error 17)"
  | notDirectory => "Not a directory (os error 20)"
  | isDirectory => "Is a directory (os error 21)"
  | invalid => "Invalid argument (os error 22)"
  | nameTooLong => "File name too long (os error 36)"
  | notEmpty => "Directory not empty (os error 39)"
  | tooManyLinks => "Too many levels of symbolic links (os error 40)"
  | zeroInPath => "file name contained an unexpected NUL byte"
  | notText => "stream did not contain valid UTF-8"
  | other number text => s!"{text} (os error {number})"

/-- The error with a number and a text. -/
def ofNumber (number : Nat) (text : String) : DiskError :=
  match number with
  | 2 => notFound
  | 16 => busy
  | 17 => occupied
  | 20 => notDirectory
  | 21 => isDirectory
  | 22 => invalid
  | 36 => nameTooLong
  | 39 => notEmpty
  | 40 => tooManyLinks
  | _ => other number text

end DiskError

end SuiteSplit

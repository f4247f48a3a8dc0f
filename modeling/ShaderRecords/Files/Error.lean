/-
ShaderRecords.Files.Error — why a step on the file system failed, and how it is told.
-/
import ShaderRecords.Text.Quoted

namespace ShaderRecords

/-- Why a step on the file system failed. -/
inductive FileCause where
  | notFound
  | alreadyExists
  | notDirectory
  | isDirectory
  | accessDenied
  | nameTooLong
  | deviceFull
  | notEmpty
  /-- Any other failure, with the number and the wording of the system. -/
  | other (number : Nat) (wording : String)
deriving Repr, DecidableEq

namespace FileCause

/-- The number under which the system knows a failure. -/
def number : FileCause → Nat
  | notFound => 2
  | accessDenied => 13
  | alreadyExists => 17
  | notDirectory => 20
  | isDirectory => 21
  | deviceFull => 28
  | nameTooLong => 36
  | notEmpty => 39
  | other n _ => n

/-- The wording of the system for a failure. -/
def wording : FileCause → String
  | notFound => "No such file or directory"
  | accessDenied => "Permission denied"
  | alreadyExists => "File exists"
  | notDirectory => "Not a directory"
  | isDirectory => "Is a directory"
  | deviceFull => "No space left on device"
  | nameTooLong => "File name too long"
  | notEmpty => "Directory not empty"
  | other _ w => w

/-- The failures that have a name. -/
def named : List FileCause :=
  [notFound, alreadyExists, notDirectory, isDirectory, accessDenied, nameTooLong, deviceFull, notEmpty]

/-- The failure with a number; `wording` is the wording of the system for one without a name. -/
def ofNumber (n : Nat) (wording : String) : FileCause :=
  (named.find? (·.number == n)).getD (other n wording)

end FileCause

/-- A failed step, with the path it was about. -/
structure FileError where
  cause : FileCause
  path : String
deriving Repr, DecidableEq

/-- The number, the wording and the path of a failure. -/
def FileError.message (e : FileError) : String :=
  "[Errno " ++ toString e.cause.number ++ "] " ++ e.cause.wording ++ ": " ++ Text.quoted e.path

end ShaderRecords

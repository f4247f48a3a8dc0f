/-
ShaderRecords.Failure — the two ways in which a step can fail.

A step either meets a problem of the input that is told to the user (`Failure.issue`), or it breaks
down on a value that it cannot work with at all (`Failure.breakdown`). Issues are collected and the
work goes on beside them; a breakdown ends the run.
-/
import ShaderRecords.Files.Error

namespace ShaderRecords

/-- Why a run cannot go on. -/
inductive Breakdown where
  /-- An operation meets a kind of value that it is not made for. -/
  | wrongKind
  /-- A part of a value is asked for that values of its kind do not have. -/
  | missingPart
  /-- A value has the right kind and a content that makes no sense. -/
  | wrongContent
  /-- A map is asked for a key that it does not have. -/
  | missingKey
  | divisionByZero
  /-- A number is too large for floating-point arithmetic, or for any. -/
  | tooLarge
  | outOfMemory
  /-- A name leads back to itself, so that following it never ends. -/
  | endless
  /-- The schema file cannot be read. -/
  | unreadableSchema
  /-- A file does not hold UTF-8 text. -/
  | undecodableText
  | file (e : FileError)
deriving Repr, DecidableEq

/-- A failed step whose problems are told by `ε`. -/
inductive Failure (ε : Type) where
  | issue (e : ε)
  | breakdown (b : Breakdown)
deriving Repr

/-- A step that can break down, as a part of a step that can fail in both ways. -/
def orBreak {ε α : Type} : Except Breakdown α → Except (Failure ε) α
  | .ok a => .ok a
  | .error b => .error (.breakdown b)

instance {ε : Type} : MonadLift (Except Breakdown) (Except (Failure ε)) := ⟨orBreak⟩

/-- A step that meets a problem of the input. -/
def refuse {ε α : Type} (e : ε) : Except (Failure ε) α :=
  .error (.issue e)

end ShaderRecords

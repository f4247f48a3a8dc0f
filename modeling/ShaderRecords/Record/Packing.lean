/-
ShaderRecords.Record.Packing — fields put into registers.

* Exact packing gives every field a register of its own.
* Aggressive packing walks the fields in the order of their declaration and adds each one to the register
  in progress while that has room. Nested records, arrays and the storage of packed bits close the
  register in progress and keep one of their own. A field that cannot be placed makes the whole packing
  fail; the order is never changed.
-/
import ShaderRecords.Document.Same
import ShaderRecords.Record.Register
import ShaderRecords.Report

namespace ShaderRecords

/-- Why a field cannot be placed after the register in progress. -/
inductive PackingCause where
  | typeMismatch
  | matrix
  | overflow
deriving Repr, DecidableEq

/-- A field that cannot be placed. -/
structure PackingError where
  cause : PackingCause
  register : Register
  field : Field
deriving Repr

namespace PackingError

/-- The code of the problem. -/
def code (e : PackingError) : String :=
  match e.cause with
  | .typeMismatch => "E_TYPE_MISMATCH"
  | .matrix => "E_MATRIX_MERGE"
  | .overflow => "E_REGISTER_OVERFLOW"

/-- The message of the problem. -/
def message (e : PackingError) : String :=
  let held := "'" ++ e.register.declaration ++ "'"
  let incoming := "'" ++ e.field.declaration ++ "'"
  match e.cause with
  | .typeMismatch =>
    "can't merge " ++ held ++ " and " ++ incoming ++ " into the same register because they have "
      ++ "incompatible types.  Consider reordering the fields so that adjacent fields have the same "
      ++ "primitive type."
  | .matrix =>
    "merging matrix types not yet supported (" ++ held ++ " and " ++ incoming
      ++ ").  Consider reordering the fields to place matrix-typed variables on four-component "
      ++ "vector boundaries."
  | .overflow =>
    "can't merge " ++ held ++ " and " ++ incoming ++ " because then " ++ e.field.name.display
      ++ " would cross register boundary.  Consider reordering the fields so that none of them cross "
      ++ "four-component vector boundaries when packed."

/-- The problem as it is told. -/
def report (e : PackingError) : Report where
  category := .packing
  code := e.code
  message := e.message
  context := some [("register", e.register.name), ("field", e.field.name)]

end PackingError

/-- The name of a register that holds what two names stand for. -/
def joinNames : Value → Value → Except Breakdown Value
  | .text a, .text b => .ok (.text (a ++ "_" ++ b))
  | _, _ => .error .wrongKind

namespace Register

/-- Fails unless a field has the kind and the record type of a register and neither has columns. -/
def checkCompatible (r : Register) (f : Field) : Except (Failure PackingError) Unit :=
  if f.kind ≠ r.kind ∨ ¬ f.typeName.same r.typeName then refuse ⟨.typeMismatch, r, f⟩
  else if f.cols.toInt > 1 ∨ r.cols.toInt > 1 then refuse ⟨.matrix, r, f⟩
  else .ok ()

/-- Adds a field at the end of a register that is not full. -/
def merge (r : Register) (f : Field) : Except (Failure PackingError) Register := do
  r.checkCompatible f
  if f.rows.toInt + r.rows.toInt > registerWidth then refuse ⟨.overflow, r, f⟩
  let name ← joinNames r.name f.name
  return { r with
    name := name
    rows := .number (r.rows.toInt + f.rows.toInt)
    members := r.members ++ [f]
    offsets := r.offsets ++ [r.elementCount] }

end Register

/-- The registers for the fields that follow the register in progress, that register included. -/
def packAfter (r : Register) : List Field → Except (Failure PackingError) (List Register)
  | [] => .ok [r]
  | f :: fs =>
    if r.isFull then return r :: (← packAfter (.ofField f) fs)
    else if r.isShareable && f.isShareable then do
      let merged ← r.merge f
      packAfter merged fs
    else do
      r.checkCompatible f
      return r :: (← packAfter (.ofField f) fs)

/-- How the fields of a record are put into registers. -/
inductive PackingRules where
  | exact
  | aggressive
deriving Repr, DecidableEq

/-- The registers of a list of fields. -/
def pack (rules : PackingRules) (fields : List Field) : Except (Failure PackingError) (List Register) :=
  match rules, fields with
  | .exact, fs => .ok (fs.map .ofField)
  | .aggressive, [] => .ok []
  | .aggressive, f :: fs => packAfter (.ofField f) fs

end ShaderRecords

/-
ShaderRecords.Record.Field — the fields of a record as the shader side sees them.

A field has a shape of rows and columns, may be an array and may stand under a preprocessor guard. Its
names and its comment are texts, save in documents that nobody has checked.
-/
import ShaderRecords.Document.Whole
import ShaderRecords.Record.Primitive

namespace ShaderRecords

/-- The number of components that a register holds. -/
def registerWidth : Int := 4

/-- A field of a record. -/
structure Field where
  name : Value
  kind : Primitive
  rows : Whole := 1
  cols : Whole := 1
  /-- Zero for a field that is no array. -/
  arraySize : Whole := 0
  /-- The name of the record type, for a nested record. -/
  typeName : Value := ""
  comment : Value := ""
  /-- The condition under which the field exists; empty for no condition. -/
  guard : Value := ""
  /-- Whether the field stores the bits of packed values, which are read through functions. -/
  storesBits : Bool := false
deriving Repr, Inhabited

namespace Field

/-- The number of components of one element. -/
def components (f : Field) : Int :=
  f.rows.toInt * f.cols.toInt

/-- The number of components of all elements. -/
def elementCount (f : Field) : Int :=
  f.rows.toInt * f.cols.toInt * max f.arraySize.toInt 1

/-- Whether a field may join others in one register: it is no nested record, no array and stores no
packed bits. -/
def isShareable (f : Field) : Bool :=
  !f.storesBits && f.arraySize.toInt == 0 && f.kind != .struct

/-- The type of one element. -/
def typeSpelling (f : Field) : Value :=
  f.kind.spelling f.typeName f.rows.toInt f.cols.toInt

/-- The declaration of the field, without the semicolon. -/
def declaration (f : Field) : String :=
  let array := if f.arraySize.toInt > 0 then "[" ++ f.arraySize.display ++ "]" else ""
  f.typeSpelling.display ++ " " ++ f.name.display ++ array

end Field

end ShaderRecords

/-
ShaderRecords.Record.Register — the declared members of a record.

A register holds one field, or several fields one after another. `Register.offsets` says at which
component each of them starts.
-/
import ShaderRecords.Record.Accessor
import ShaderRecords.Record.Field

namespace ShaderRecords

/-- A declared member of a record. -/
structure Register where
  name : Value
  kind : Primitive
  rows : Whole
  cols : Whole := 1
  arraySize : Whole := 0
  typeName : Value := ""
  comment : Value := ""
  guard : Value := ""
  /-- The fields in the register, in the order of their declaration. -/
  members : List Field := []
  /-- The first component of each field. -/
  offsets : List Int := []
deriving Repr, Inhabited

namespace Register

/-- The register of a single field. -/
def ofField (f : Field) : Register where
  name := f.name
  kind := f.kind
  rows := f.rows
  cols := f.cols
  arraySize := f.arraySize
  typeName := f.typeName
  comment := f.comment
  guard := f.guard
  members := [f]
  offsets := [0]

/-- The number of components of all elements. -/
def elementCount (r : Register) : Int :=
  r.rows.toInt * r.cols.toInt * max r.arraySize.toInt 1

/-- Whether no component of the last row of components is left. -/
def isFull (r : Register) : Bool :=
  r.elementCount % registerWidth == 0

/-- Whether several fields share the register. -/
def isMerged (r : Register) : Bool :=
  r.members.length > 1

/-- Whether another field may join. -/
def isShareable (r : Register) : Bool :=
  r.members.all (·.isShareable)

/-- The register as one field of the record. -/
def toField (r : Register) : Field where
  name := r.name
  kind := r.kind
  rows := r.rows
  cols := r.cols
  arraySize := r.arraySize
  typeName := r.typeName
  comment := r.comment
  guard := r.guard

/-- The declaration of the register, without the semicolon. -/
def declaration (r : Register) : String :=
  r.toField.declaration

/-- The place of a field that starts at a component of the register. -/
def accessor (r : Register) (f : Field) (offset : Int) : Accessor where
  field := f.name
  register := r.name
  offset := offset
  components := f.components
  arraySize := f.arraySize
  shares := r.isMerged

/-- The places of the register's fields. -/
def accessors (r : Register) : List Accessor :=
  List.zipWith r.accessor r.members r.offsets

/-- The register's fields with their places. -/
def placedFields (r : Register) : List (Field × Accessor) :=
  r.members.zip r.accessors

end Register

/-- All fields of a list of registers with their places, in the order of declaration. -/
def placedFields (registers : List Register) : List (Field × Accessor) :=
  registers.flatMap (·.placedFields)

end ShaderRecords

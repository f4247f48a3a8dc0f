/-
ShaderRecords.Storage.Layout — where and how a packed value is stored.

A layout is written over a type of numbers: over `Number` it is what the program works with, over `Rat`
its range is read exactly.
-/
import ShaderRecords.Document.Whole
import ShaderRecords.Number.Limit
import ShaderRecords.Storage.Scheme

namespace ShaderRecords

/-- Member types that can be handed out as they are, each with its shader type. -/
def nativeTypes : List (String × String) :=
  [("uint", "uint"), ("float", "float"), ("Vector2", "float2"), ("Vector3", "float3"),
    ("Vector4", "float4"), ("Vector2Int", "int2"), ("float2", "float2"), ("float3", "float3"),
    ("float4", "float4"), ("int2", "int2")]

/-- The number of bits of a storage word. -/
def wordBits : Int := 32

/-- Where and how a packed value is stored. -/
structure Layout (α : Type) where
  field : Value
  fieldType : String
  scheme : Option Scheme
  offset : Whole := 0
  width : Whole := .number wordBits
  /-- The values that the smallest and the largest code stand for. -/
  range : α × α
  labels : List Value := []
  isDirection : Bool := false
  srgb : Bool := false
  checkNormalized : Bool := false
  /-- Whether codes stand for fractions of the range; otherwise they are plain whole numbers. -/
  normalized : Bool := true
  guard : String := ""
deriving Repr, Inhabited

namespace Layout

variable {α : Type}

/-- The largest code: as many ones as the layout has bits. -/
def mask (l : Layout α) : Except Breakdown Nat := do
  return (← shiftUp 1 l.width.toInt).toNat - 1

/-- The name of the value in functions: its first label, or the name of its field. -/
def label (l : Layout α) : Value :=
  l.labels.headD l.field

/-- The shader type of the field, where it can be handed out as it is. -/
def nativeType? (l : Layout α) : Option String :=
  nativeTypes.lookup l.fieldType

/-- The shader type that is handed out and taken in. -/
def valueType? (l : Layout α) : Option String :=
  match l.scheme with
  | some .packedFloat => some "float"
  | some .packedUint => some (if l.normalized then "float" else "uint")
  | some .smallFloats => some "float3"
  | some .noPacking => l.nativeType?
  | none => none

/-- Whether the range is another one than from zero to one. -/
def isRemapped [Arithmetic α] (l : Layout α) : Bool :=
  !(Arithmetic.same l.range.1 Arithmetic.zero && Arithmetic.same l.range.2 Arithmetic.one)

/-- The same layout over another type of numbers. -/
def mapRange {β : Type} (f : α → β) (l : Layout α) : Layout β :=
  { l with range := (f l.range.1, f l.range.2) }

end Layout

end ShaderRecords

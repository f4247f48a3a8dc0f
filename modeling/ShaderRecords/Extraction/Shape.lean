/-
ShaderRecords.Extraction.Shape — the shapes of the built-in types of members.
-/
import ShaderRecords.Record.Primitive

namespace ShaderRecords

/-- Kind, rows and columns of a type. -/
structure Shape where
  kind : Primitive
  rows : Int := 1
  cols : Int := 1
deriving Repr, DecidableEq

namespace Shape

/-- The types that have a shape of their own. -/
def table : List (String × Shape) :=
  [("float", ⟨.float, 1, 1⟩), ("int", ⟨.int, 1, 1⟩), ("uint", ⟨.uint, 1, 1⟩), ("bool", ⟨.bool, 1, 1⟩),
    ("Vector2", ⟨.float, 2, 1⟩), ("Vector3", ⟨.float, 3, 1⟩), ("Vector4", ⟨.float, 4, 1⟩),
    ("Vector2Int", ⟨.int, 2, 1⟩), ("Vector3Int", ⟨.int, 3, 1⟩), ("UInt4", ⟨.uint, 4, 1⟩),
    ("Matrix4x4", ⟨.float, 4, 4⟩),
    ("float2", ⟨.float, 2, 1⟩), ("float3", ⟨.float, 3, 1⟩), ("float4", ⟨.float, 4, 1⟩),
    ("int2", ⟨.int, 2, 1⟩), ("int3", ⟨.int, 3, 1⟩), ("int4", ⟨.int, 4, 1⟩),
    ("uint2", ⟨.uint, 2, 1⟩), ("uint3", ⟨.uint, 3, 1⟩), ("uint4", ⟨.uint, 4, 1⟩),
    ("float4x4", ⟨.float, 4, 4⟩)]

/-- The shape of a built-in type. -/
def ofName? (name : String) : Option Shape :=
  table.lookup name

end Shape

/-- The built-in types of one component. -/
def scalarTypes : List String := ["float", "int", "uint", "bool"]

/-- The kind of a built-in type of one component. -/
def scalarKind? (name : String) : Option Primitive :=
  if scalarTypes.contains name then (Shape.ofName? name).map (·.kind) else none

/-- The element types of arrays in constant buffers: each element fills whole registers. -/
def bufferElementTypes : List String :=
  ["Vector4", "UInt4", "Matrix4x4", "float4", "uint4", "float4x4"]

/-- The kind of floating-point components for a precision. -/
def floatKind (precision : String) : Primitive :=
  if precision = "half" then .half else if precision = "real" then .real else .float

end ShaderRecords

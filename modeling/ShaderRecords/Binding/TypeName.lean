/-
ShaderRecords.Binding.TypeName — the names that a binding may give as its type.

A name means a number, vector or matrix (`plainSpelling?`, `floatSpelling?`), a texture, a buffer, a
buffer that names its items itself (`BufferOf`), or a type declared by the description.
-/
import ShaderRecords.Text.CharClass

namespace ShaderRecords

namespace TypeName

/-- The spelling of types without a half-precision form. -/
def plainSpelling? : String → Option String
  | "int" => some "int"
  | "uint" => some "uint"
  | "bool" => some "int"
  | "Vector3Int" => some "uint3"
  | "Vector2Int" => some "uint2"
  | _ => none

/-- What follows `float`, or `half`, in the spelling of types with a half-precision form. -/
def floatSuffix? : String → Option String
  | "float" | "float[]" => some ""
  | "Vector2" => some "2"
  | "Vector3" => some "3"
  | "Vector4" | "Vector4[]" => some "4"
  | "Matrix4x4" | "Matrix4x4[]" => some "4x4"
  | _ => none

/-- The spelling of types with a half-precision form. -/
def floatSpelling? (half : Bool) (name : String) : Option String :=
  (floatSuffix? name).map fun suffix => (if half then "half" else "float") ++ suffix

/-- Names of textures. -/
def isTexture (name : String) : Bool :=
  ["Texture", "Texture2D", "Texture3D", "RenderTexture"].contains name

/-- Names of buffers that leave it to the binding what they hold. -/
def isBuffer (name : String) : Bool :=
  ["ComputeBuffer", "GraphicsBuffer"].contains name

end TypeName

/-- A buffer that names its items itself: `StructuredBuffer<T>`, or `RWStructuredBuffer<T>` if it may be
written. -/
structure BufferOf where
  isWritable : Bool
  item : String
deriving Repr, DecidableEq

namespace BufferOf

/-- Characters in the names of items. -/
def isItemChar (c : Char) : Bool :=
  Text.isWord c || c == '[' || c == ']'

/-- The text after a given front. -/
def after? (front s : List Char) : Option (List Char) :=
  if front.isPrefixOf s then some (s.drop front.length) else none

/-- Reads the name of an item with blanks around it up to the closing bracket, which may be followed by
one line break. -/
def readItem? (s : List Char) : Option String :=
  let s := s.dropWhile Text.isBlank
  let item := s.takeWhile isItemChar
  let rest := (s.dropWhile isItemChar).dropWhile Text.isBlank
  if item ≠ [] ∧ (rest = ['>'] ∨ rest = ['>', '\n']) then some (String.ofList item) else none

/-- Reads the name of a buffer. -/
def ofName? (name : String) : Option BufferOf :=
  let s := name.toList
  let (isWritable, s) :=
    match after? "RW".toList s with
    | some rest => (true, rest)
    | none => (false, s)
  do
    let item ← readItem? (← after? "StructuredBuffer<".toList s)
    return ⟨isWritable, item⟩

end BufferOf

end ShaderRecords

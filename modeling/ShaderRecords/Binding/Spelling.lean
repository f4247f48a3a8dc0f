/-
ShaderRecords.Binding.Spelling — how the type of a binding is spelled in a shader.

The type of a texture or buffer takes the type of its items from the binding, and that in turn may name
a buffer, so names lead to names (`Binding.next?`). No chain of names that ends is longer than four
(`Binding.longestChain`), which bounds the recursion.
-/
import ShaderRecords.Binding.Error
import ShaderRecords.Binding.TypeName
import ShaderRecords.Description.Basic
import ShaderRecords.Document.Same
import ShaderRecords.Failure

namespace ShaderRecords

namespace Binding

variable (b : Binding)

/-- A problem with the binding. -/
def fail {α : Type} (cause : BindingCause) : Except (Failure BindingError) α :=
  refuse ⟨b.name, b.type, cause⟩

/-- What stands before the items of a texture. -/
def textureForm : String :=
  (if b.isWritable then "RW" else "") ++ "Texture" ++ b.textureDimension.display ++ "D"
    ++ (if b.isTextureArray then "Array" else "")

/-- What stands before the items of a buffer. -/
def bufferForm (isWritable : Bool) : String :=
  (if isWritable then "RW" else "") ++ "StructuredBuffer"

/-- Whether a buffer that names its items is spelled as a writable one. -/
def isWrittenAs (buffer : BufferOf) : Bool :=
  buffer.isWritable && (b.isWritable || !b.addWritable)

/-- A type with its items. -/
def withItems (form items : String) : String :=
  form ++ "<" ++ items ++ ">"

/-- The spelling of a type name, when no chain of more than `steps` names is followed. -/
def spellWithin (declared : List String) : Nat → String → Except (Failure BindingError) String
  | 0, _ => .error (.breakdown .endless)
  | steps + 1, name =>
    let items (v : Value) : Except (Failure BindingError) String := do
      spellWithin declared steps (← v.asText)
    if let some spelling := TypeName.plainSpelling? name then .ok spelling
    else if let some spelling := TypeName.floatSpelling? b.half name then .ok spelling
    else if TypeName.isTexture name then
      if b.innerType.isPresent then withItems b.textureForm <$> items b.innerType
      else .ok "Texture2D<float4>"
    else if TypeName.isBuffer name then
      if b.innerType.isPresent then withItems (bufferForm b.isWritable) <$> items b.innerType
      else b.fail (.noInnerType name)
    else if let some buffer := BufferOf.ofName? name then
      withItems (bufferForm (b.isWrittenAs buffer)) <$> items (.text buffer.item)
    else if declared.contains name then .ok name
    else b.fail (.unrecognized name)

/-- The length of the longest chain of names that ends. -/
def longestChain : Nat := 4

/-- The spelling of a type name. -/
def spell (declared : List String) (name : String) : Except (Failure BindingError) String :=
  b.spellWithin declared longestChain name

/-- The spelling of the binding's type: the one that it asks for, or else the one of its type name.
`declared` holds the names of the types that the description declares. -/
def spelling (declared : List String) : Except (Failure BindingError) Value :=
  if b.hlslType.isPresent then .ok b.hlslType else .text <$> b.spell declared b.type

end Binding

end ShaderRecords

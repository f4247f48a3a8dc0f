/-
ShaderRecords.Extraction.Error — problems with the members of a type.
-/
import ShaderRecords.Record.Field
import ShaderRecords.Storage.Error

namespace ShaderRecords

/-- What is wrong with a member. -/
inductive ExtractionCause where
  /-- Of array size and element type only one is given. -/
  | incompleteArray (type : String)
  /-- The element type does not fill a register of a constant buffer. -/
  | bufferElement (element : Value)
  | unsupported (type : Value)
  /-- A compound has a field that is no scalar. -/
  | nonPrimitive (compound : Value) (type : String)
  | tooMany (compound : Value)
  | mixedKinds (compound : Value)
deriving Repr

/-- A problem with a member. -/
structure ExtractionError where
  site : Site
  cause : ExtractionCause
deriving Repr

namespace ExtractionError

/-- The code of the problem. -/
def code (e : ExtractionError) : String :=
  match e.cause with
  | .incompleteArray _ | .bufferElement _ => "E_INVALID_ARRAY"
  | .unsupported _ => "E_UNSUPPORTED_TYPE"
  | .nonPrimitive .. => "E_NON_PRIMITIVE_SUBFIELD"
  | .tooMany _ => "E_TOO_MANY_SUBFIELDS"
  | .mixedKinds _ => "E_MIXED_KINDS"

/-- The message of the problem. -/
def message (e : ExtractionError) : String :=
  let name := e.site.field.display
  let member (compound : Value) := "'" ++ compound.display ++ " " ++ name ++ "'"
  match e.cause with
  | .incompleteArray type =>
    "'" ++ type ++ " " ++ name
      ++ "' needs both 'array_size' and 'element' to be declared as an array"
  | .bufferElement element =>
    "invalid array element '" ++ element.display ++ "' for '" ++ name
      ++ "', only Vector4, Matrix4x4 and UInt4 are supported for arrays in constant buffers"
  | .unsupported type => "unsupported field type '" ++ type.display ++ "' for '" ++ name ++ "'"
  | .nonPrimitive compound type =>
    member compound
      ++ " can not be packed into a register, since it contains a non-primitive field type '"
      ++ type ++ "'"
  | .tooMany compound =>
    member compound ++ " can not be packed into a register because it contains more than "
      ++ toString registerWidth ++ " fields"
  | .mixedKinds compound =>
    member compound
      ++ " can not be packed into a single register because it contains mixed basic types"

/-- The problem as it is told. -/
def report (e : ExtractionError) : Report where
  category := .extraction
  code := e.code
  message := e.message
  context := some e.site.context

end ExtractionError

end ShaderRecords

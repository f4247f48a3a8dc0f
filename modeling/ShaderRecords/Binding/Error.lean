/-
ShaderRecords.Binding.Error — problems with resources that are bound to the shader.
-/
import ShaderRecords.Report

namespace ShaderRecords

/-- What is wrong with a binding. -/
inductive BindingCause where
  /-- A buffer does not say what it holds. -/
  | noInnerType (type : String)
  | unrecognized (type : String)
  | noArraySize
deriving Repr, DecidableEq

/-- A problem with a binding. -/
structure BindingError where
  binding : Value
  type : String
  cause : BindingCause
deriving Repr

namespace BindingError

/-- The code of the problem. -/
def code (e : BindingError) : String :=
  match e.cause with
  | .noInnerType _ => "E_INNER_TYPE"
  | .unrecognized _ => "E_UNRECOGNIZED_TYPE"
  | .noArraySize => "E_ARRAY_SIZE"

/-- What is wrong, without the name of the binding. -/
def reason (e : BindingError) : String :=
  match e.cause with
  | .noInnerType type => "buffer inner type not specified for " ++ type
  | .unrecognized type => "unrecognized data type '" ++ type ++ "'"
  | .noArraySize => "array size not specified for " ++ e.type

/-- The problem as it is told. -/
def report (e : BindingError) : Report where
  category := .directive
  code := e.code
  message := "failed to generate binding '" ++ e.binding.display ++ "': " ++ e.reason
  context := some [("binding", e.binding), ("binding_type", e.type)]

end BindingError

end ShaderRecords

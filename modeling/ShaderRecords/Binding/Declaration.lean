/-
ShaderRecords.Binding.Declaration — the lines for bindings, keywords and kernels.

A binding that asks for it is declared twice, the second time as writable and under its name with `RW`
behind it.
-/
import ShaderRecords.Binding.Spelling
import ShaderRecords.Identifier.Rule

namespace ShaderRecords

namespace Binding

variable (b : Binding)

/-- The array size behind the name. -/
def arraySuffix : Except (Failure BindingError) String :=
  if !b.type.endsWith "[]" then .ok ""
  else if b.arraySize.toInt = 0 then b.fail .noArraySize
  else .ok ("[" ++ b.arraySize.display ++ "]")

/-- The line that declares the binding under a name. -/
def declaration (declared : List String) (name : String) : Except (Failure BindingError) String := do
  let spelling ← b.spelling declared
  let suffix ← b.arraySuffix
  let coherence := if b.globallyCoherent && b.isWritable then "globallycoherent " else ""
  return coherence ++ spelling.display ++ " " ++ name ++ suffix ++ ";\n"

/-- The binding as a writable one. -/
def writable : Binding :=
  { b with isWritable := true }

/-- All lines of the binding. -/
def text (declared : List String) : Except (Failure BindingError) String := do
  let name ← shaderName b.name b.target
  let line ← b.declaration declared name.display
  if !b.addWritable then return line
  return line ++ (← b.writable.declaration declared ((← name.asText) ++ "RW"))

end Binding

namespace Keyword

/-- The pragma that makes variants of the shader. -/
def mode (k : Keyword) : String :=
  if k.isLocal then "multi_compile_local" else "multi_compile"

/-- The alternatives of a keyword: its values, or the keyword itself and its absence. -/
def alternatives (k : Keyword) : Except Breakdown String := do
  if k.values.isEmpty then return "__ " ++ (← shaderName k.name k.target).display
  let names ← k.values.mapM fun v => shaderName v.name v.target
  return " ".intercalate (← names.mapM Value.asText)

/-- The line of a keyword. -/
def text (k : Keyword) : Except Breakdown String := do
  return "#pragma " ++ k.mode ++ " " ++ (← k.alternatives) ++ "\n"

end Keyword

/-- The line of a kernel. -/
def Kernel.text (k : Kernel) : Except Breakdown String := do
  return "#pragma kernel " ++ (← shaderName k.name k.target).display ++ "\n"

end ShaderRecords

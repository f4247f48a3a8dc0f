/-
ShaderRecords.Debug.Category — how a value becomes a colour in the debug view.
-/
import ShaderRecords.Record.Primitive

namespace ShaderRecords

/-- How a value becomes a colour. -/
inductive DebugCategory where
  | scalar
  | bool
  | vec2
  | vec3
  | vec4
  /-- Everything else is shown as a colour picked by its value. -/
  | index
deriving Repr, DecidableEq, Inhabited

namespace DebugCategory

/-- All categories. -/
def all : List DebugCategory := [scalar, bool, vec2, vec3, vec4, index]

/-- The name of a category. -/
def label : DebugCategory → String
  | scalar => "scalar"
  | bool => "bool"
  | vec2 => "vec2"
  | vec3 => "vec3"
  | vec4 => "vec4"
  | index => "index"

/-- The category with a name. -/
def ofLabel? (s : String) : Option DebugCategory :=
  all.find? (·.label == s)

/-- The category of values of a shape. -/
def ofShape (kind : Primitive) (rows cols : Int) : DebugCategory :=
  if cols > 1 then index
  else if kind.isFloat then
    if rows = 1 then scalar
    else if rows = 2 then vec2
    else if rows = 3 then vec3
    else if rows = 4 then vec4
    else index
  else if kind = .bool ∧ rows = 1 then bool
  else index

end DebugCategory

end ShaderRecords

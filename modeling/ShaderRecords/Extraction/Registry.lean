/-
ShaderRecords.Extraction.Registry — the names that member types can refer to besides the built-in ones.
-/
import ShaderRecords.Description.Basic
import ShaderRecords.Document.Same

namespace ShaderRecords

/-- The compounds and the types of a description. -/
structure Registry where
  compounds : List Compound := []
  generated : List TypeDef := []
deriving Repr, Inhabited

namespace Registry

/-- The registry of a description; the names of its compounds and types must be able to stand as keys. -/
def ofDescription (d : Description) : Except Breakdown Registry := do
  let types := d.sources.flatMap (·.types)
  let _ ← d.compounds.mapM fun c => c.name.asKey
  let _ ← types.mapM fun t => t.name.asKey
  return ⟨d.compounds, types⟩

/-- The type with a name; of several, the last one. -/
def findType? (r : Registry) (name : Value) : Option TypeDef :=
  r.generated.reverse.find? fun t => t.name.same name

/-- The compound with a name; of several, the last one. -/
def findCompound? (r : Registry) (name : Value) : Option Compound :=
  r.compounds.reverse.find? fun c => c.name.same name

/-- The names of the types. -/
def names (r : Registry) : List String :=
  r.generated.filterMap fun t => t.name.text?

end Registry

end ShaderRecords

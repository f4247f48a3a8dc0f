/-
ShaderRecords.Product.Manifest — what is said about the types for other tools.
-/
import ShaderRecords.Document.Json.Printer
import ShaderRecords.Product.TypeProduct

namespace ShaderRecords

namespace Manifest

/-- A whole number as a document value. -/
def number (n : Int) : Value := .int n

/-- A field with its place. -/
def field (f : Field) (a : Accessor) : Value :=
  .map [("name", f.name), ("kind", f.kind.keyword), ("type", f.typeSpelling), ("rows", f.rows.toValue),
    ("cols", f.cols.toValue), ("array_size", f.arraySize.toValue), ("register", a.register),
    ("swizzle_offset", number a.offset), ("packed", .bool a.shares)]

/-- A packed value. -/
def layout (l : Layout Number) : Value :=
  .map [("field", l.field), ("display_names", .list l.labels),
    ("scheme", match l.scheme with | some s => .text s.label | none => .null),
    ("offset", l.offset.toValue), ("width", l.width.toValue),
    ("range", .list [l.range.1.toValue, l.range.2.toValue])]

/-- An entry of the debug view. -/
def debugEntry (f : DebugField) : Value :=
  .map [("define", f.define), ("id", f.id), ("field", f.field)]

/-- The constants of an enumeration. -/
def constants (cs : Constants) : Value :=
  .map (cs.map fun c => (c.1, .text c.2))

/-- What is said about a type. -/
def type (p : TypeProduct) : Value :=
  let t := p.typeDef
  .map ([("name", t.name), ("full_name", t.fullName), ("kind", t.kind),
    ("packing_rules", t.packingRules),
    ("fields", .list ((placedFields p.registers).map fun (f, a) => field f a)),
    ("packed", .list (p.layouts.map layout)),
    ("debug", .list (p.extracted.debugFields.map debugEntry))]
    ++ if t.isEnum then [("values", constants p.extracted.constants)] else [])

/-- The manifest of a source: all types without problems. -/
def document (settings : Settings) (target : String) (types : List TypeProduct) : Value :=
  .map [("source", settings.sourceLabel), ("source_version", settings.sourceVersion),
    ("tool_version", toolVersion), ("target", target),
    ("types", .list ((types.filter (·.isFine)).map type))]

/-- The text of a manifest. -/
def text (settings : Settings) (target : String) (types : List TypeProduct) : String :=
  Json.render 0 (document settings target types) ++ "\n"

end Manifest

end ShaderRecords

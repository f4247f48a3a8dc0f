/-
ShaderRecords.Schema.Document — the schema of documents.

`Schema.document` is the schema that documents follow when no other one is asked for.
-/
import ShaderRecords.Schema.Violation

namespace ShaderRecords.Schema

/-- Texts. -/
def text : Schema := ofKind .string

/-- Flags. -/
def flag : Schema := ofKind .boolean

/-- Whole numbers. -/
def whole : Schema := ofKind .integer

/-- Texts that are not empty. -/
def someText : Schema := [.kinds [.string], .minLength 1]

/-- Whole numbers from a bound on. -/
def wholeFrom (n : Int) : Schema := [.kinds [.integer], .minimum n]

/-- Given values. -/
def among (values : List Value) : Schema := [.among values]

/-- Lists of labels. -/
def labels : Schema := listOf text

/-- How a member is shown in the debug view. -/
def surface : Schema :=
  record [] [
    ("display_names", labels),
    ("is_direction", flag),
    ("srgb", flag),
    ("check_normalized", flag),
    ("precision", among ["standard", "half", "real"]),
    ("preprocessor", text)]

/-- The two ends of a range. -/
def range : Schema :=
  [.kinds [.array], .items (ofKind .number), .minItems 2, .maxItems 2]

/-- Requests to store a value in bits. -/
def packing : Schema :=
  record [] [
    ("display_names", labels),
    ("scheme", text),
    ("offset", wholeFrom 0),
    ("width", whole),
    ("range", range),
    ("is_direction", flag),
    ("srgb", flag),
    ("check_normalized", flag),
    ("preprocessor", text)]

/-- Members of records and compounds. -/
def member : Schema :=
  record ["name", "type"] [
    ("name", someText),
    ("type", someText),
    ("static", flag),
    ("value", [.kinds [.number, .boolean, .string]]),
    ("array_size", wholeFrom 1),
    ("element", text),
    ("comment", text),
    ("surface", surface),
    ("packing", listOf packing),
    ("accessors", flag)]

/-- Record types and enumerations. -/
def typeDef : Schema :=
  record ["name"] [
    ("name", [.kinds [.string], .pattern .name]),
    ("full_name", text),
    ("kind", among ["struct", "enum"]),
    ("packing_rules", among ["exact", "aggressive"]),
    ("needs_accessors", flag),
    ("needs_setters", flag),
    ("needs_param_debug", flag),
    ("param_defines_start", whole),
    ("generate_cbuffer", flag),
    ("constant_register", whole),
    ("omit_struct_declaration", flag),
    ("members", listOf member),
    ("values", [.kinds [.object], .additional [] whole])]

/-- Resources that are bound to the shader. -/
def binding : Schema :=
  record ["name", "type"] [
    ("name", text),
    ("type", text),
    ("target", text),
    ("hlsl_type", text),
    ("inner_type", text),
    ("half", flag),
    ("globally_coherent", flag),
    ("add_rw", flag),
    ("is_uav", flag),
    ("array_size", wholeFrom 0),
    ("is_tex_array", flag),
    ("tex_dimension", among [.int 1, .int 2, .int 3])]

/-- Kernels, and keyword values that are no texts. -/
def named : Schema :=
  record ["name"] [("name", text), ("target", text)]

/-- Keywords. -/
def keyword : Schema :=
  record ["name"] [
    ("name", text),
    ("target", text),
    ("local", flag),
    ("values", listOf [.oneOf [text, named]])]

/-- Facts about the document. -/
def info : Schema :=
  record ["version"] [
    ("version", text),
    ("schema_version", text),
    ("description", text),
    ("source", text)]

/-- Settings for all sources. -/
def defaults : Schema :=
  record [] [
    ("packing_include", text),
    ("param_defines_start", whole),
    ("generator_command", text)]

/-- Compounds. -/
def compound : Schema :=
  record ["name"] [("name", text), ("fields", listOf member)]

/-- Sources. -/
def source : Schema :=
  record ["path"] [
    ("path", someText),
    ("types", listOf typeDef),
    ("bindings", listOf binding),
    ("keywords", listOf keyword),
    ("kernels", listOf named)]

/-- Documents. -/
def document : Schema :=
  record ["meta", "sources"] [
    ("meta", info),
    ("defaults", defaults),
    ("compounds", listOf compound),
    ("sources", listOf source)]

end ShaderRecords.Schema

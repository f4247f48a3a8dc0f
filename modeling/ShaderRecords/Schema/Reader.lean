/-
ShaderRecords.Schema.Reader — schemas read from documents.

A schema is written as a map from the names of rules to what they ask for; names that mean no rule are
passed over. A reference stands for one of the definitions of the whole document. Schemas and
definitions may be nested up to `Schema.maxNesting`.
-/
import ShaderRecords.Description.Reader
import ShaderRecords.Schema.Basic

namespace ShaderRecords

namespace Schema

/-- How deep schemas and references may be nested. -/
def maxNesting : Nat := 100

/-- The texts in a list of texts. -/
def textsOf? (v : Value) : Option (List String) :=
  match v with
  | .list items => items.mapM Value.text?
  | _ => none

/-- The kinds that a rule names. -/
def kindsOf? : Value → Option (List ValueKind)
  | .text s => do return [← ValueKind.ofLabel? s]
  | v => do (← textsOf? v).mapM ValueKind.ofLabel?

/-- The count that a rule names. -/
def countOf? : Value → Option Nat
  | .int n => some n.toNat
  | _ => none

/-- The definition that a reference stands for. -/
def definition? (definitions : Entries) (reference : String) : Option Value :=
  let start := "#/definitions/"
  if start.toList.isPrefixOf reference.toList then
    List.lookup (String.ofList (reference.toList.drop start.length)) definitions
  else none

/-- The keys that a schema has rules of their own for. -/
def knownKeys (es : Entries) : List String :=
  match Entries.get es "properties" with
  | .map ps => ps.map (·.1)
  | _ => []

/-- Reads a schema nested up to `depth` times. -/
def ofNested? (definitions : Entries) : Nat → Value → Option Schema
  | 0, _ => none
  | _ + 1, .bool true => some []
  | depth + 1, .map es =>
    match List.lookup "$ref" es with
    | some (.text reference) => do ofNested? definitions depth (← definition? definitions reference)
    | some _ => none
    | none => do
      let rules ← es.mapM fun (key, v) => (show Option (List Rule) from
        match key, v with
        | "type", v => do return [.kinds (← kindsOf? v)]
        | "required", v => do return [.required (← textsOf? v)]
        | "properties", .map ps => do
          return [.properties (← ps.mapM fun (k, s) => do return (k, ← ofNested? definitions depth s))]
        | "additionalProperties", .bool false => some [.closed (knownKeys es)]
        | "additionalProperties", s => do
          return [.additional (knownKeys es) (← ofNested? definitions depth s)]
        | "items", s => do return [.items (← ofNested? definitions depth s)]
        | "enum", .list vs => some [.among vs]
        | "pattern", .text s => if s = Pattern.name.text then some [.pattern .name] else none
        | "minimum", .int n => some [.minimum n]
        | "minLength", v => do return [.minLength (← countOf? v)]
        | "minItems", v => do return [.minItems (← countOf? v)]
        | "maxItems", v => do return [.maxItems (← countOf? v)]
        | "oneOf", .list ss => do return [.oneOf (← ss.mapM (ofNested? definitions depth))]
        | _, _ => some [])
      return rules.flatten
  | _ + 1, _ => none

/-- Reads a schema. -/
def ofValue? (v : Value) : Option Schema :=
  match v with
  | .map es =>
    let definitions : Entries := match Entries.get es "definitions" with
      | .map ds => ds
      | _ => []
    ofNested? definitions maxNesting v
  | v => ofNested? [] maxNesting v

end Schema

end ShaderRecords

/-
ShaderRecords.Description.Normalization — the normal form of a document.

Kinds, packing rules and precisions are put in lower case; labels and packing requests become lists.
Nothing else changes, and the entries keep their order. Normalization comes before the schema, so it
meets documents of any shape: it passes over members that are no maps and breaks down on compounds,
sources and types that are none.
-/
import ShaderRecords.Document.Same
import ShaderRecords.Text.CaseMapping

namespace ShaderRecords

/-- Changes the value under a key, where there is one. -/
def Entries.modify (es : Entries) (key : String) (f : Value → Value) : Entries :=
  es.map fun (k, v) => if k = key then (k, f v) else (k, v)

/-- A text in lower case; other values stay. -/
def Value.lowered : Value → Value
  | .text s => .text (Text.lower s)
  | v => v

/-- A value as a list. -/
def Value.listed (v : Value) : Value :=
  .list v.asItems

/-- Changes the items of a list; other values stay. -/
def Value.mapItems (f : Value → Value) : Value → Value
  | .list items => .list (items.map f)
  | v => v

/-- Changes the entries of a map; other values stay. -/
def Value.mapEntries (f : Entries → Entries) : Value → Value
  | .map es => .map (f es)
  | v => v

namespace Normalization

/-- The normal form of what says how a member is shown. -/
def surface (es : Entries) : Entries :=
  (es.modify "display_names" Value.listed).modify "precision" Value.lowered

/-- The normal form of a packing request. -/
def directive (es : Entries) : Entries :=
  es.modify "display_names" Value.listed

/-- The normal form of a member. -/
def member (es : Entries) : Entries :=
  (es.modify "surface" (Value.mapEntries surface)).modify "packing" fun v =>
    v.listed.mapItems (Value.mapEntries directive)

/-- The normal form of what stands where a list of members is expected. -/
def members (v : Value) : Value :=
  v.mapItems (Value.mapEntries member)

/-- Fails where the items under a key cannot be taken one by one. -/
def checkItems (es : Entries) (key : String) : Except Breakdown Unit := do
  let _ ← ((Ordered.find? es key).getD .null).elementsIfAny
  return ()

/-- The normal form of a compound. -/
def compound (v : Value) : Except Breakdown Value := do
  let es ← v.entries
  checkItems es "fields"
  return .map (es.modify "fields" members)

/-- The normal form of a type. -/
def typeDef (v : Value) : Except Breakdown Value := do
  let es ← v.entries
  let es := (es.modify "kind" Value.lowered).modify "packing_rules" Value.lowered
  checkItems es "members"
  return .map (es.modify "members" members)

/-- The normal form of what stands where a list of maps is expected: each map in the form that `f` gives
it. -/
def each (f : Value → Except Breakdown Value) (v : Value) : Except Breakdown Value := do
  let items ← v.elementsIfAny
  let normal ← items.mapM f
  return match v with
    | .list _ => .list normal
    | v => v

/-- The entries with the value under a key in the form that `f` gives it. -/
def under (key : String) (f : Value → Except Breakdown Value) (es : Entries) :
    Except Breakdown Entries := do
  let v ← f ((es.find? key).getD .null)
  return es.modify key fun _ => v

/-- The normal form of a source. -/
def source (v : Value) : Except Breakdown Value := do
  return .map (← under "types" (each typeDef) (← v.entries))

end Normalization

/-- The normal form of a document. -/
def normalize (doc : Value) : Except Breakdown Value := do
  let es ← doc.entries
  let es ← Normalization.under "compounds" (Normalization.each Normalization.compound) es
  let es ← Normalization.under "sources" (Normalization.each Normalization.source) es
  return .map es

end ShaderRecords

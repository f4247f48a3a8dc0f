/-
ShaderRecords.Description.Reader — descriptions read from documents.

Reading is lenient: missing parts take defaults, texts and single values are accepted where lists are
expected, flags follow `Value.isPresent` and whole numbers `Value.toWhole?`. It breaks down on a part
that has no entries where entries are needed. The one problem it tells is a type name that two types
share, and a source without a path.
-/
import ShaderRecords.Description.Basic
import ShaderRecords.Description.Error
import ShaderRecords.Document.Same
import ShaderRecords.Number.Literal

namespace ShaderRecords

namespace Value

/-- The whole number a value is meant as, none where it is not meant as one. An infinite number breaks
down. -/
def toWhole? : Value → Except Breakdown (Option Whole)
  | int n => .ok (some (.number n))
  | bool b => .ok (some (.flag b))
  | text s => .ok ((readInt? s).map .number)
  | float x =>
    match (Number.float x).truncate with
    | .ok n => .ok (some (.number n))
    | .error .wrongContent => .ok none
    | .error e => .error e
  | _ => .ok none

/-- The floating-point number a value is meant as. -/
def toFloat : Value → Except Breakdown Float
  | text s =>
    match readFloat? s with
    | some x => .ok x
    | none => .error .wrongContent
  | v => do (← v.toNumber).toFloat

end Value

namespace Entries

/-- The value under a key, `null` where there is none. -/
def get (es : Entries) (key : String) : Value :=
  (es.find? key).getD .null

/-- The flag under a key. -/
def flag (es : Entries) (key : String) (default : Bool := false) : Bool :=
  match es.find? key with
  | some v => v.isPresent
  | none => default

/-- The text shown for the value under a key, or another where none counts as present. -/
def textOr (es : Entries) (key : String) (default : String := "") : String :=
  ((es.get key).orElse (.text default)).display

/-- The texts of the items under a key. -/
def texts (es : Entries) (key : String) : List String :=
  (es.get key).asItems.map Value.display

/-- The whole number under a key. -/
def whole? (es : Entries) (key : String) : Except Breakdown (Option Whole) :=
  (es.get key).toWhole?

/-- The items under a key, each read by `read`. -/
def readItems {α : Type} (es : Entries) (key : String) (read : Value → Except Breakdown α) :
    Except Breakdown (List α) := do
  (← (es.get key).elementsIfAny).mapM read

end Entries

namespace Surface

/-- Reads how a member is shown. -/
def ofEntries (es : Entries) : Surface where
  labels := es.texts "display_names"
  isDirection := es.flag "is_direction"
  srgb := es.flag "srgb"
  checkNormalized := es.flag "check_normalized"
  precision := es.textOr "precision" "standard"
  guard := es.textOr "preprocessor"

/-- Reads how a member is shown, if the document says so. -/
def ofValue? : Value → Except Breakdown (Option Surface)
  | .null => .ok none
  | v => do return some (ofEntries (← v.entries))

end Surface

/-- Reads the two ends of a range, and whatever else is given as one. -/
def readRange? : Value → Except Breakdown (Option (List Float))
  | .null => .ok none
  | v => do
    let items ← v.elements
    return some (← items.mapM Value.toFloat)

/-- Whether an item is a text that calls it no number. -/
def anySpelledNan (v : Value) : Bool :=
  v.asItems.any fun
    | .text s => (readFloat? s).any Float.isNaN
    | _ => false

/-- Reads a request to store a value in bits. -/
def Directive.ofValue (v : Value) : Except Breakdown Directive := do
  let es ← v.entries
  let offset ← es.whole? "offset"
  let width ← es.whole? "width"
  let range ← readRange? (es.get "range")
  return {
    labels := es.texts "display_names"
    scheme := es.get "scheme"
    offset := (offset.getD 0).orElse 0
    width := width
    range := range
    hasSpelledNan := anySpelledNan (es.get "range")
    isDirection := es.flag "is_direction"
    srgb := es.flag "srgb"
    checkNormalized := es.flag "check_normalized"
    guard := es.textOr "preprocessor" }

/-- Reads a member. -/
def Member.ofValue (v : Value) : Except Breakdown Member := do
  let es ← v.entries
  let arraySize ← es.whole? "array_size"
  let surface ← Surface.ofValue? (es.get "surface")
  let packing ← (es.get "packing").asItems.mapM Directive.ofValue
  return {
    name := es.get "name"
    type := (es.get "type").display
    isStatic := es.flag "static"
    value := es.get "value"
    arraySize := arraySize
    element := es.get "element"
    comment := es.textOr "comment"
    surface := surface
    packing := packing
    accessors := es.get "accessors" }

/-- Reads a compound. -/
def Compound.ofValue (v : Value) : Except Breakdown Compound := do
  let es ← v.entries
  let fields ← es.readItems "fields" Member.ofValue
  return { name := es.get "name", fields := fields }

/-- Puts a value under a key, in the place of an equal key if there is one. -/
def putKeyed : List (Value × Value) → Value → Value → List (Value × Value)
  | [], key, v => [(key, v)]
  | (k, old) :: es, key, v =>
    if k.same key then (k, v) :: es else (k, old) :: putKeyed es key v

/-- Reads a map, or a list of pairs in place of one. -/
def readPairs (v : Value) : Except Breakdown (List (Value × Value)) :=
  match v.orElse (.map []) with
  | .map es => .ok (es.map fun (k, v) => (.text k, v))
  | v => do
    let items ← v.elements
    items.foldlM (fun pairs item => do
      match ← item.elements with
      | [key, value] => return putKeyed pairs (← key.asKey) value
      | _ => throw .wrongContent) []

/-- Reads a record type or an enumeration. -/
def TypeDef.ofValue (v : Value) : Except Breakdown TypeDef := do
  let es ← v.entries
  let debugStart ← es.whole? "param_defines_start"
  let register ← es.whole? "constant_register"
  let members ← es.readItems "members" Member.ofValue
  let values ← readPairs (es.get "values")
  return {
    name := es.get "name"
    fullName := (es.get "full_name").orElse (es.get "name")
    kind := (es.get "kind").orElse "struct"
    packingRules := (es.get "packing_rules").orElse "exact"
    needsAccessors := es.flag "needs_accessors" true
    needsSetters := es.flag "needs_setters"
    needsDebug := es.flag "needs_param_debug"
    debugStart := debugStart
    isConstantBuffer := es.flag "generate_cbuffer"
    constantRegister := register.getD (.number (-1))
    omitDeclaration := es.flag "omit_struct_declaration"
    members := members
    values := values }

/-- Reads a binding. -/
def Binding.ofValue (v : Value) : Except Breakdown Binding := do
  let es ← v.entries
  let arraySize ← es.whole? "array_size"
  let dimension ← es.whole? "tex_dimension"
  return {
    name := es.get "name"
    type := (es.get "type").display
    target := es.get "target"
    hlslType := es.get "hlsl_type"
    innerType := es.get "inner_type"
    half := es.flag "half"
    globallyCoherent := es.flag "globally_coherent"
    addWritable := es.flag "add_rw"
    isWritable := es.flag "is_uav"
    arraySize := (arraySize.getD 0).orElse 0
    isTextureArray := es.flag "is_tex_array"
    textureDimension := (dimension.getD 0).orElse 2 }

/-- Reads a value of a keyword: a map with a name, or anything else that is shown as its name. -/
def KeywordValue.ofValue : Value → KeywordValue
  | .map es => { name := Entries.get es "name", target := Entries.get es "target" }
  | v => { name := .text v.display }

/-- Reads a keyword. -/
def Keyword.ofValue (v : Value) : Except Breakdown Keyword := do
  let es ← v.entries
  return {
    name := es.get "name"
    target := es.get "target"
    isLocal := es.flag "local"
    values := (es.get "values").asItems.map KeywordValue.ofValue }

/-- Reads a kernel. -/
def Kernel.ofValue (v : Value) : Except Breakdown Kernel := do
  let es ← v.entries
  return { name := es.get "name", target := es.get "target" }

/-- Reads a source. -/
def Source.ofValue (v : Value) : Except (Failure DocumentError) Source := do
  let es ← v.entries
  let path := es.get "path"
  if !path.isPresent then refuse .missingPath
  let types ← es.readItems "types" TypeDef.ofValue
  let bindings ← es.readItems "bindings" Binding.ofValue
  let keywords ← es.readItems "keywords" Keyword.ofValue
  let kernels ← es.readItems "kernels" Kernel.ofValue
  return {
    path := path.display
    types := types
    bindings := bindings
    keywords := keywords
    kernels := kernels }

/-- The entries of a map that may have the given keys only. -/
def entriesAmong (keys : List String) (v : Value) : Except Breakdown Entries :=
  match v.orElse (.map []) with
  | .map es => if es.all fun e => keys.contains e.1 then .ok es else .error .wrongKind
  | _ => .error .wrongKind

/-- Reads the facts about the document. -/
def Meta.ofValue (v : Value) : Except Breakdown Meta := do
  let es ← entriesAmong ["version", "schema_version", "description", "source"] v
  return {
    version := es.get "version"
    schemaVersion := es.get "schema_version"
    description := es.get "description"
    source := es.get "source" }

/-- Reads the settings for all sources. -/
def Defaults.ofValue (v : Value) : Except Breakdown Defaults := do
  let es ← entriesAmong ["packing_include", "param_defines_start", "generator_command"] v
  let standard : Defaults := {}
  return {
    packingInclude := (es.find? "packing_include").getD standard.packingInclude
    debugStart := (es.find? "param_defines_start").getD standard.debugStart
    generatorCommand := (es.find? "generator_command").getD standard.generatorCommand }

/-- The types of all sources, each with the path of its source. -/
def declaredTypes (sources : List Source) : List (String × TypeDef) :=
  sources.flatMap fun s => s.types.map fun t => (s.path, t)

/-- Fails at the first type whose name an earlier one has; `seen` holds the names so far with the paths
of their sources. -/
def checkTypeNames (seen : List (Value × String)) :
    List (String × TypeDef) → Except (Failure DocumentError) Unit
  | [] => .ok ()
  | (path, t) :: rest => do
    let name ← t.name.asKey
    match seen.find? fun entry => entry.1.same name with
    | some (_, first) => refuse (.duplicateType name first path)
    | none => checkTypeNames ((name, path) :: seen) rest

/-- Reads a description. -/
def Description.ofValue (v : Value) : Except (Failure DocumentError) Description := do
  let es ← v.entries
  let info ← Meta.ofValue (es.get "meta")
  let defaults ← Defaults.ofValue (es.get "defaults")
  let compounds ← es.readItems "compounds" Compound.ofValue
  let sources ← (← (es.get "sources").elementsIfAny).mapM Source.ofValue
  checkTypeNames [] (declaredTypes sources)
  return { info := info, defaults := defaults, compounds := compounds, sources := sources }

end ShaderRecords

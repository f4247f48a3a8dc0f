/-
ShaderRecords.Description.Basic — what a document describes.

A description lists sources. Each source has record types and enumerations, resource bindings, keywords
and kernels, and becomes one include file. Parts that are texts in every checked document, but that
nothing requires to be texts in an unchecked one, are kept as values.
-/
import ShaderRecords.Document.Whole
import ShaderRecords.Record.Packing

namespace ShaderRecords

/-- Facts about the document itself. -/
structure Meta where
  version : Value := .null
  schemaVersion : Value := .null
  description : Value := .null
  source : Value := .null
deriving Repr, Inhabited

/-- The include path of the library with the packing functions. -/
def standardPackingInclude : String :=
  "Packages/com.unity.render-pipelines.core/ShaderLibrary/Packing.hlsl"

/-- Settings that a document makes for all its sources. -/
structure Defaults where
  packingInclude : Value := .text standardPackingInclude
  debugStart : Value := .int 1
  generatorCommand : Value := .text "shadertype-codegen"
deriving Repr, Inhabited

/-- How a member is shown in the debug view. -/
structure Surface where
  labels : List String := []
  isDirection : Bool := false
  srgb : Bool := false
  checkNormalized : Bool := false
  precision : String := "standard"
  guard : String := ""
deriving Repr, Inhabited

/-- The request to store a value in the bits of a member. -/
structure Directive where
  labels : List String := []
  scheme : Value := .null
  offset : Whole := 0
  width : Option Whole := none
  range : Option (List Float) := none
  /-- Whether an end of the range is given as a text that calls it no number. -/
  hasSpelledNan : Bool := false
  isDirection : Bool := false
  srgb : Bool := false
  checkNormalized : Bool := false
  guard : String := ""
deriving Repr, Inhabited

/-- A member of a record or of a compound. -/
structure Member where
  name : Value
  type : String
  isStatic : Bool := false
  value : Value := .null
  arraySize : Option Whole := none
  element : Value := .null
  comment : String := ""
  surface : Option Surface := none
  packing : List Directive := []
  /-- Whether ordinary accessors are asked for; `null` leaves it to the type. -/
  accessors : Value := .null
deriving Repr, Inhabited

/-- A small record of scalars that takes one register where it is used. -/
structure Compound where
  name : Value
  fields : List Member := []
deriving Repr, Inhabited

/-- A record type or an enumeration. -/
structure TypeDef where
  name : Value
  fullName : Value
  kind : Value := .text "struct"
  packingRules : Value := .text "exact"
  needsAccessors : Bool := true
  needsSetters : Bool := false
  needsDebug : Bool := false
  debugStart : Option Whole := none
  isConstantBuffer : Bool := false
  /-- The slot of a constant buffer; `-1` for none in particular. -/
  constantRegister : Whole := .number (-1)
  omitDeclaration : Bool := false
  members : List Member := []
  /-- The named values of an enumeration. -/
  values : List (Value × Value) := []
deriving Repr, Inhabited

namespace TypeDef

/-- Whether the type is an enumeration. -/
def isEnum (t : TypeDef) : Bool :=
  match t.kind with
  | .text k => k == "enum"
  | _ => false

/-- Whether fields may share registers. -/
def isAggressive (t : TypeDef) : Bool :=
  match t.packingRules with
  | .text r => r == "aggressive"
  | _ => false

/-- How the fields of the type are put into registers. -/
def rules (t : TypeDef) : PackingRules :=
  if t.isAggressive then .aggressive else .exact

end TypeDef

/-- A resource that is bound to the shader. -/
structure Binding where
  name : Value
  type : String
  target : Value := .null
  hlslType : Value := .null
  innerType : Value := .null
  half : Bool := false
  globallyCoherent : Bool := false
  /-- Whether a second, writable declaration is added. -/
  addWritable : Bool := false
  isWritable : Bool := false
  arraySize : Whole := 0
  isTextureArray : Bool := false
  textureDimension : Whole := 2
deriving Repr, Inhabited

/-- A value of a shader keyword. -/
structure KeywordValue where
  name : Value
  target : Value := .null
deriving Repr, Inhabited

/-- A shader keyword. -/
structure Keyword where
  name : Value
  target : Value := .null
  isLocal : Bool := false
  values : List KeywordValue := []
deriving Repr, Inhabited

/-- A compute kernel. -/
structure Kernel where
  name : Value
  target : Value := .null
deriving Repr, Inhabited

/-- A file of the described program, with all that its include file declares. -/
structure Source where
  path : String
  types : List TypeDef := []
  bindings : List Binding := []
  keywords : List Keyword := []
  kernels : List Kernel := []
deriving Repr, Inhabited

/-- All that a document describes. -/
structure Description where
  info : Meta := {}
  defaults : Defaults := {}
  compounds : List Compound := []
  sources : List Source := []
deriving Repr, Inhabited

end ShaderRecords

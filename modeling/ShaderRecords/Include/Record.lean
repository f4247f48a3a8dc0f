/-
ShaderRecords.Include.Record — all pieces of an include file that belong to one type.
-/
import ShaderRecords.Include.Fragment
import ShaderRecords.Include.PackedFunctions

namespace ShaderRecords

/-- A type with everything that its pieces are written from. -/
structure RecordView where
  typeDef : TypeDef
  /-- The type's name, which is a text. -/
  name : String
  extracted : TypeFields
  registers : List Register
  layouts : List (Layout Number)
  /-- The include path of the packing library. -/
  packingInclude : Value
deriving Repr

namespace RecordView

/-- A type with a name that is a text. -/
def of? (t : TypeDef) (extracted : TypeFields) (registers : List Register)
    (layouts : List (Layout Number)) (packingInclude : Value) : Except Breakdown RecordView := do
  return ⟨t, ← t.name.textParts, extracted, registers, layouts, packingInclude⟩

variable (v : RecordView)

/-- The names of the type in functions. -/
def names : RecordNames := ⟨v.name⟩

/-- The names of the fields that store packed values. -/
def packedNames : List Value :=
  v.extracted.packedMembers.map (·.name) ++ v.layouts.map (·.field)

/-- The defines of the type's constants. -/
def defines : String :=
  if v.extracted.constants.isEmpty then ""
  else definesText v.typeDef.fullName.display v.extracted.constants

/-- The declaration of the type. -/
def declaration : Except Breakdown String :=
  if v.extracted.hasFields then declarationText v.typeDef v.registers else .ok ""

/-- The functions that read ordinary fields. -/
def getters : Except Breakdown String :=
  gettersText v.typeDef v.name v.extracted.hasFields v.registers v.packedNames

/-- The functions that write ordinary fields. -/
def setters (mode : WriteMode) : Except Breakdown String :=
  settersText mode v.typeDef v.name v.extracted.hasFields v.registers v.packedNames

/-- The function that shows the fields in the debug view. -/
def debug : Except Breakdown String := do
  if !(v.typeDef.needsDebug && !v.extracted.debugFields.isEmpty) then return ""
  let accessors := (placedFields v.registers).map (·.2)
  let _ ← accessors.mapM fun a => a.field.asKey
  return debugFunction v.name v.extracted.debugFields accessors ++ "\n"

/-- The piece of a kind, unless there is nothing in it. -/
def piece (owner : Int) (kind : FragmentKind) (text : String) : List Fragment :=
  if text = "" then [] else [⟨kind, text, owner⟩]

/-- The pieces for packed values, or the ordinary debug function where there are none. -/
def packedPieces (owner : Int) : Emitting (List Fragment) := do
  if v.layouts.isEmpty then return piece owner .debug (← emitted v.debug)
  let getters ← packedGetters v.names v.layouts
  let setters ← packedSetters .set v.names v.layouts
  let initializers ← packedSetters .fill v.names v.layouts
  let debug ← emitted v.debug
  return piece owner .packedInclude (packedInclude v.packingInclude v.layouts)
    ++ piece owner .packedGetters getters ++ piece owner .packedSetters setters
    ++ piece owner .packedInitializers initializers ++ piece owner .packedDebug debug

/-- All pieces of the type. -/
def fragments (owner : Int) : Emitting (List Fragment) := do
  let declaration ← emitted v.declaration
  let getters ← emitted v.getters
  let setters ← emitted (v.setters .set)
  let initializers ← emitted (v.setters .fill)
  let packed ← v.packedPieces owner
  return piece owner .defines v.defines ++ piece owner .declaration declaration
    ++ piece owner .accessors getters ++ piece owner .setters setters
    ++ piece owner .initializers initializers ++ packed

/-- The problems that are told when fields have no value type. -/
def untypedErrors (told : Untyped) : List DirectiveError :=
  told.map fun field => .noScheme ⟨v.typeDef.name, field⟩

end RecordView

end ShaderRecords

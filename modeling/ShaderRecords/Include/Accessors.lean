/-
ShaderRecords.Include.Accessors — the functions that read and write ordinary fields.

A field that stores packed values has functions of another kind (`ShaderRecords.Include.PackedFunctions`)
and gets none here.
-/
import ShaderRecords.Include.Declaration

namespace ShaderRecords

/-- Whether functions write into storage that may hold something, or into storage of zeros. -/
inductive WriteMode where
  | set
  | fill
deriving Repr, DecidableEq

namespace WriteMode

/-- The first word of the names of the functions. -/
def verb : WriteMode → String
  | set => "Set"
  | fill => "Init"

/-- What the comment above the functions calls them. -/
def plural : WriteMode → String
  | set => "Setters"
  | fill => "Init functions"

end WriteMode

/-- A one-line function. -/
def functionText (signature statement : String) : String :=
  signature ++ "\n\x7b\n" ++ indent ++ statement ++ "\n\x7d\n"

/-- The fields that get ordinary functions, with their places: those whose names are not among the names
of packed values. -/
def ordinaryFields (registers : List Register) (packedNames : List Value) :
    Except Breakdown (List (Field × Accessor)) := do
  let _ ← packedNames.mapM Value.asKey
  let placed := placedFields registers
  let _ ← placed.mapM fun p => p.1.name.asKey
  return placed.filter fun p => ! packedNames.any fun name => name.same p.1.name

/-- The function that reads a field. -/
def getterText (typeName : String) (f : Field) (a : Accessor) : Except Breakdown String := do
  let name := "Get" ++ Identifier.capitalized (← f.name.asText)
  if a.arraySize.toInt > 0 then
    return functionText (f.typeSpelling.display ++ " " ++ name ++ "(" ++ typeName ++ " value, int index)")
      ("return " ++ a.expression "value" "index" ++ ";")
  else
    return functionText (f.typeSpelling.display ++ " " ++ name ++ "(" ++ typeName ++ " value)")
      ("return " ++ a.expression "value" ++ ";")

/-- The function that writes a field. -/
def setterText (mode : WriteMode) (typeName : String) (f : Field) (a : Accessor) :
    Except Breakdown String := do
  let name := mode.verb ++ Identifier.capitalized (← f.name.asText)
  let isArray := a.arraySize.toInt > 0
  let parameters := f.typeSpelling.display ++ " newValue, inout " ++ typeName ++ " value"
    ++ (if isArray then ", int index" else "")
  let target := if isArray then a.expression "value" "index" else a.expression "value"
  let remark := if mode = .fill then "// Valid only on zero-initialized storage.\n" else ""
  return remark ++ functionText ("void " ++ name ++ "(" ++ parameters ++ ")")
    (target ++ " = newValue;")

/-- The functions that read the ordinary fields of a type, if it asks for them. -/
def gettersText (t : TypeDef) (typeName : String) (hasFields : Bool) (registers : List Register)
    (packedNames : List Value) : Except Breakdown String :=
  if !(t.needsAccessors && hasFields) then .ok ""
  else do
    let fields ← ordinaryFields registers packedNames
    if fields.isEmpty then return ""
    let functions ← fields.mapM fun p => getterText typeName p.1 p.2
    return banner ["Accessors for " ++ t.fullName.display] ++ String.join functions

/-- The functions that write the ordinary fields of a type, if it asks for them. -/
def settersText (mode : WriteMode) (t : TypeDef) (typeName : String) (hasFields : Bool)
    (registers : List Register) (packedNames : List Value) : Except Breakdown String :=
  if !(t.needsAccessors && t.needsSetters && hasFields) then .ok ""
  else do
    let fields ← ordinaryFields registers packedNames
    if fields.isEmpty then return ""
    let functions ← fields.mapM fun p => setterText mode typeName p.1 p.2
    return banner [mode.plural ++ " for " ++ t.fullName.display] ++ String.join functions

end ShaderRecords

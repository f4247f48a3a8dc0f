/-
ShaderRecords.Include.PackedFunctions — the functions that read and write packed values.

`Layout.getter?` is the expression that reads a value from its storage word, `Layout.store` the statement
that writes one. They do on the shader side what `Layout.decode`, `Layout.insert` and `Layout.init` do
here. A layout without a value type gets a marker in place of a function, and is told once.
-/
import ShaderRecords.Include.Accessors
import ShaderRecords.Include.Formula
import ShaderRecords.Storage.Error

namespace ShaderRecords

section Expressions

variable {α : Type} [Arithmetic α]

open Arithmetic Formula

/-- The value of a range at the place that an expression stands for. -/
def Layout.decoded (l : Layout α) (e : Formula α) : Except Breakdown (Formula α) :=
  if !l.isRemapped then .ok e
  else do
    let (lo, hi) := l.range
    let scaled := group (binary .times e (constant (← sub hi lo)))
    if same lo zero then return scaled
    else
      let op := if lt zero lo then Operator.plus else .minus
      return group (binary op scaled (constant (magnitude lo)))

/-- The place of the argument in a range. -/
def Layout.placed (l : Layout α) : Except Breakdown (Formula α) :=
  if !l.isRemapped then .ok argument
  else do
    let (lo, hi) := l.range
    let inverse ← div one (← sub hi lo)
    let bias ← mul lo inverse
    let scaled := group (binary .times argument (constant inverse))
    if same bias zero then return scaled
    else
      let op := if lt zero bias then Operator.minus else .plus
      return group (binary op scaled (constant (magnitude bias)))

/-- The code of the argument. -/
def Layout.quantized (l : Layout α) : Except Breakdown (Formula α) := do
  if l.normalized then
    let place ← l.placed
    return group (toUint (group (binary .times (call .saturate place) (wholeFloat (← l.mask)))))
  else return group (binary .and argument (wholeUint (← l.mask)))

/-- An expression moved up to the place of a layout. -/
def Layout.shifted (l : Layout α) (e : Formula α) : Formula α :=
  if l.offset.toInt = 0 then e else binary .shiftLeft e (whole l.offset)

/-- The expression that reads the value of a layout; none for a layout without a value type. -/
def Layout.getter? (l : Layout α) : Except Breakdown (Option (Formula α)) :=
  if l.valueType?.isNone then .ok none
  else
    match l.scheme with
    | some .packedFloat =>
      some <$> l.decoded (call3 .unpackUIntToFloat stored (whole l.offset) (whole l.width))
    | some .packedUint =>
      let code := call3 .bitFieldExtract stored (whole l.offset) (whole l.width)
      if l.normalized then do
        some <$> l.decoded (group (binary .divide code (wholeFloat (← l.mask))))
      else .ok (some code)
    | some .smallFloats => some <$> l.decoded (call .unpackSmallFloats stored)
    | _ => .ok (some (group stored))

/-- The statement that writes the argument. -/
def Layout.store (l : Layout α) (mode : WriteMode) : Except Breakdown (Store α) :=
  match l.scheme with
  | some .smallFloats => do return .assign (call .packSmallFloats (← l.placed))
  | some .noPacking => .ok (.assign argument)
  | _ => do
    let bits := l.shifted (← l.quantized)
    match mode with
    | .fill => return .orAssign bits
    | .set =>
      return .assign (call3 .bitFieldInsert (l.shifted (wholeUint (← l.mask))) bits stored)

end Expressions

/-- What stands in place of a function for a layout without a value type. -/
def unknownSchemeMarker : String := "ERROR_Packing_field_not_specified"

/-- The fields that have been told to have no value type. -/
abbrev Untyped := List Value

/-- A step that writes functions and may tell a field without a value type. -/
abbrev Emitting := ExceptT Breakdown (StateM Untyped)

/-- A step that only breaks down, as one that writes functions. -/
def emitted {α : Type} (x : Except Breakdown α) : Emitting α :=
  ExceptT.mk (pure x)

/-- The names of a type in the functions for its packed values. -/
structure RecordNames where
  typeName : String
deriving Repr

namespace RecordNames

/-- The name of the parameter that holds the record. -/
def source (n : RecordNames) : String :=
  Text.lower n.typeName

/-- The storage word of a layout. -/
def stored {α : Type} (n : RecordNames) (l : Layout α) : String :=
  n.source ++ "." ++ l.field.display

end RecordNames

/-- The marker for a layout without a value type, whose field is told unless it was told before. -/
def marker (l : Layout Number) : Emitting String := do
  let _ ← emitted l.field.asKey
  modify fun told => if told.any fun name => name.same l.field then told else told ++ [l.field]
  return unknownSchemeMarker ++ "\n"

/-- The function that reads a packed value. -/
def packedGetter (n : RecordNames) (l : Layout Number) : Emitting String := do
  match l.valueType?, ← emitted l.getter? with
  | some valueType, some e =>
    let text ← emitted (e.render (n.stored l) "")
    return functionText
      (valueType ++ " Get" ++ l.label.display ++ "(in " ++ n.typeName ++ " " ++ n.source ++ ")")
      ("return " ++ text ++ ";")
  | _, _ => marker l

/-- The function that writes a packed value. -/
def packedSetter (mode : WriteMode) (n : RecordNames) (l : Layout Number) : Emitting String := do
  match l.valueType? with
  | some valueType =>
    let name ← emitted l.label.asText
    let parameter := "new" ++ name
    let statement ← emitted do (← l.store mode).render (n.stored l) parameter
    return functionText
      ("void " ++ mode.verb ++ name ++ "(" ++ valueType ++ " " ++ parameter ++ ", inout " ++ n.typeName
        ++ " " ++ n.source ++ ")")
      statement
  | none => marker l

/-- The line that includes the packing library. -/
def packedInclude (path : Value) (layouts : List (Layout Number)) : String :=
  if layouts.isEmpty then "" else "#include \"" ++ path.display ++ "\"\n"

/-- The functions that read the packed values of a type. -/
def packedGetters (n : RecordNames) (layouts : List (Layout Number)) : Emitting String := do
  if layouts.isEmpty then return ""
  let functions ← layouts.mapM (packedGetter n)
  return banner ["Accessors for packed fields"] ++ String.join functions

/-- The comment above the functions that write packed values. -/
def packedBanner : WriteMode → String
  | .set => banner ["Setters for packed fields"]
  | .fill =>
    banner ["Init functions for packed fields.",
      "Important: Init functions assume the field is filled with 0s, use setters otherwise."]

/-- The functions that write the packed values of a type. -/
def packedSetters (mode : WriteMode) (n : RecordNames) (layouts : List (Layout Number)) :
    Emitting String := do
  if layouts.isEmpty then return ""
  let functions ← layouts.mapM (packedSetter mode n)
  let ending := if mode = .fill then "\n" else ""
  return packedBanner mode ++ String.join functions ++ ending

end ShaderRecords

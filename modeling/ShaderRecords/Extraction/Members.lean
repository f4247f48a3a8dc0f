/-
ShaderRecords.Extraction.Members — what the members of a type give.

Each member gives at most one field, constants, entries of the debug view and, where it stores packed
values, itself. A member with a problem gives nothing but the problem, and the others are not affected.
Entries of the debug view are numbered one after another through all members.
-/
import ShaderRecords.Debug.Dispatch
import ShaderRecords.Extraction.Error
import ShaderRecords.Extraction.Registry
import ShaderRecords.Extraction.Shape
import ShaderRecords.Identifier
import ShaderRecords.Storage.Resolution

namespace ShaderRecords

/-- Constants by name. -/
abbrev Constants := Ordered String

/-- What the members of a type give. -/
structure TypeFields where
  fields : List Field := []
  constants : Constants := []
  debugFields : List DebugField := []
  packedMembers : List Member := []
  errors : List ExtractionError := []
deriving Repr, Inhabited

namespace TypeFields

/-- Whether there is a field at all. -/
def hasFields (t : TypeFields) : Bool :=
  !t.fields.isEmpty

/-- Whether a member stores packed values. -/
def hasPacked (t : TypeFields) : Bool :=
  !t.packedMembers.isEmpty

end TypeFields

/-- The text of a constant: a flag counts as one or zero, a fractional number has nine significant
digits at most. -/
def constantText : Value → String
  | .bool b => if b then "1" else "0"
  | .float x => Binary64.significantText 9 x
  | v => v.display

/-- The number after a number that counts debug entries. -/
def nextId : Value → Except Breakdown Value
  | .int n => .ok (.int (n + 1))
  | .bool b => .ok (.int (if b then 2 else 1))
  | .float x => .ok (.float (x + 1))
  | _ => .error .wrongKind

/-- The text of a number that counts debug entries. -/
def idText : Value → Except Breakdown String
  | .int n => wholeText n
  | v => .ok v.display

/-- A step on the numbers of debug entries that can meet a problem of a member. -/
abbrev Extracting := Except (Failure ExtractionError)

/-- What one member gives. -/
structure MemberYield where
  field : Option Field := none
  constants : Constants := []
  debugFields : List DebugField := []
  packedMember : Option Member := none
  /-- The number of the next debug entry. -/
  next : Value
deriving Repr, Inhabited

section Members

variable (registry : Registry) (t : TypeDef)

/-- The site of a member. -/
def TypeDef.site (m : Member) : Site :=
  ⟨t.name, m.name⟩

/-- The declared type of a member or of its elements, and the size of the array; none for an array of
no given size, which has no place in a register. -/
def elementType (m : Member) : Extracting (Option (Value × Whole)) :=
  match m.element, m.arraySize with
  | .null, none => .ok (if "[]".toList.isSuffixOf m.type.toList then none else some (.text m.type, 0))
  | .null, some _ => refuse ⟨t.site m, .incompleteArray m.type⟩
  | _, none => refuse ⟨t.site m, .incompleteArray m.type⟩
  | element, some size =>
    if t.isConstantBuffer ∧ ¬ bufferElementTypes.any fun name => element.same (.text name) then
      refuse ⟨t.site m, .bufferElement element⟩
    else .ok (some (element, size))

/-- The kinds and names of a compound's fields, `found` being those of the fields before: at most as
many scalars as a register has components. -/
def compoundScalars (c : Compound) (m : Member) (found : List (Primitive × Value)) :
    List Member → Extracting (List (Primitive × Value))
  | [] => .ok found
  | f :: fs =>
    if f.isStatic then compoundScalars c m found fs
    else
      match scalarKind? f.type with
      | none => refuse ⟨t.site m, .nonPrimitive c.name f.type⟩
      | some kind =>
        if (found.length : Int) = registerWidth then refuse ⟨t.site m, .tooMany c.name⟩
        else compoundScalars c m (found ++ [(kind, f.name)]) fs

/-- The comment that says which component holds which field of a compound. -/
def componentComment (names : List Value) : String :=
  " ".intercalate (List.zipWith (fun c n => String.singleton c ++ ": " ++ n.display)
    componentLetters names)

/-- The field for a member whose type is a compound: one component per field of the compound. -/
def flatten (c : Compound) (m : Member) (arraySize : Whole) (guard : String) :
    Extracting (Option Field) := do
  match ← compoundScalars t c m [] c.fields with
  | [] => return none
  | (kind, name) :: rest =>
    if rest.any fun scalar => scalar.1 ≠ kind then refuse ⟨t.site m, .mixedKinds c.name⟩
    else
      let comment :=
        if kind = .float ∧ m.comment = "" then componentComment (name :: rest.map (·.2))
        else m.comment
      return some {
        name := m.name
        kind := kind
        rows := .number (rest.length + 1)
        arraySize := arraySize
        comment := comment
        guard := guard }

/-- The field for a member of a declared type. -/
def fieldOf (m : Member) (declared : Value) (arraySize : Whole) (floats : Primitive) (guard : String) :
    Extracting (Option Field) := do
  let declared ← orBreak declared.asKey
  let plain : Field :=
    { name := m.name, kind := floats, arraySize := arraySize, comment := m.comment, guard := guard }
  match declared.text?.bind Shape.ofName? with
  | some shape =>
    let kind := if shape.kind.isFloat then floats else shape.kind
    return some { plain with kind := kind, rows := .number shape.rows, cols := .number shape.cols }
  | none =>
    match registry.findType? declared with
    | some nested =>
      if nested.isEnum then
        let comment := if m.comment = "" then declared else .text m.comment
        return some { plain with kind := .int, comment := comment }
      else return some { plain with kind := .struct, typeName := nested.name }
    | none =>
      match registry.findCompound? declared with
      | some c => flatten t c m arraySize guard
      | none => refuse ⟨t.site m, .unsupported declared⟩

/-- Debug entries under several labels, numbered from `next`. -/
def debugEntries (next : Value) (make : String → Value → DebugField) :
    List Value → Except Breakdown (List DebugField × Value)
  | [] => .ok ([], next)
  | label :: labels => do
    let define := Identifier.ofDebugEntry (← t.fullName.textParts) (← label.textParts)
    let following ← nextId next
    let _ ← idText next
    let (rest, last) ← debugEntries following make labels
    return (make define next :: rest, last)

/-- The labels of an ordinary member: those of its surface, or its name if the first one is missing or
empty. -/
def Member.debugLabels (m : Member) : List Value :=
  match m.surface with
  | some s => if s.labels.headD "" = "" then [m.name] else s.labels.map .text
  | none => [m.name]

/-- The debug entries of an ordinary member. -/
def ordinaryDebug (next : Value) (m : Member) (f : Field) :
    Except Breakdown (List DebugField × Value) :=
  let surface := m.surface.getD {}
  debugEntries t next (fun define id => {
    define := define
    id := id
    field := m.name
    category := .ofShape f.kind f.rows.toInt f.cols.toInt
    isDirection := surface.isDirection
    srgb := surface.srgb
    checkNormalized := surface.checkNormalized
    guard := surface.guard }) m.debugLabels

/-- The category of a packed value. -/
def packedCategory (scheme : Option Scheme) (d : Directive) (f : Option Field) : DebugCategory :=
  match scheme, f with
  | some .noPacking, some f => .ofShape f.kind f.rows.toInt f.cols.toInt
  | some .packedUint, _ => if d.range.isSome then .scalar else .index
  | some .packedFloat, _ => .scalar
  | some .smallFloats, _ => .vec3
  | _, _ => .index

/-- The debug entries of a member's packed values. -/
def packedDebug (m : Member) (f : Option Field) (next : Value) :
    List Directive → Except Breakdown (List DebugField × Value)
  | [] => .ok ([], next)
  | d :: ds => do
    let names := d.names m.name
    let scheme ← Scheme.ofValue? d.scheme
    let (entries, next) ← debugEntries t next (fun define id => {
      define := define
      id := id
      field := m.name
      category := packedCategory scheme d f
      getter := "Get" ++ (names.headD m.name).display
      isDirection := d.isDirection
      srgb := d.srgb
      checkNormalized := d.checkNormalized
      guard := d.guard }) names
    let (rest, last) ← packedDebug m f next ds
    return (entries ++ rest, last)

/-- The debug entries of a member, none unless the type has a debug view. -/
def memberDebug (next : Value) (m : Member) (f : Option Field) :
    Except Breakdown (List DebugField × Value) :=
  if !t.needsDebug then .ok ([], next)
  else if !m.packing.isEmpty then packedDebug t m f next m.packing
  else
    match f with
    | some f => ordinaryDebug t next m f
    | none => .ok ([], next)

/-- What a static member gives: a constant, if it is a scalar with a value. -/
def staticYield (next : Value) (m : Member) (declared : Value) : Except Breakdown MemberYield :=
  match m.value with
  | .null => .ok { next := next }
  | value =>
    if scalarTypes.any fun name => declared.same (.text name) then do
      let define := Identifier.ofConstant (← m.name.asText)
      return { constants := [(define, constantText value)], next := next }
    else .ok { next := next }

/-- What a member gives, `next` being the number of the next debug entry. -/
def memberYield (next : Value) (m : Member) : Extracting MemberYield := do
  match ← elementType t m with
  | none => return { next := next }
  | some (declared, arraySize) =>
    if m.isStatic then staticYield next m declared
    else
      let surface := m.surface.getD {}
      let field ← fieldOf registry t m declared arraySize (floatKind surface.precision) surface.guard
      let stores := !m.packing.isEmpty
      let field := field.map fun f => { f with storesBits := stores }
      let (debugFields, next) ← memberDebug t next m field
      return {
        field := field
        constants := debugFields.map fun d => (d.define, d.id.display)
        debugFields := debugFields
        packedMember := if stores then some m else none
        next := next }

/-- Adds what a member gives. -/
def TypeFields.add (out : TypeFields) (y : MemberYield) : TypeFields where
  fields := out.fields ++ y.field.toList
  constants := y.constants.foldl (fun cs (name, value) => cs.put name value) out.constants
  debugFields := out.debugFields ++ y.debugFields
  packedMembers := out.packedMembers ++ y.packedMember.toList
  errors := out.errors

/-- Adds what members give one after another, `next` being the number of the next debug entry. -/
def extractMembers (next : Value) (out : TypeFields) : List Member → Except Breakdown TypeFields
  | [] => .ok out
  | m :: ms =>
    match memberYield registry t next m with
    | .ok y => extractMembers y.next (out.add y) ms
    | .error (.issue e) => extractMembers next { out with errors := out.errors ++ [e] } ms
    | .error (.breakdown b) => .error b

/-- The constants of an enumeration. -/
def enumConstants : Constants → List (Value × Value) → Except Breakdown Constants
  | cs, [] => .ok cs
  | cs, (name, value) :: rest => do
    let define := Identifier.ofEnumValue (← t.name.asText) (← name.asText)
    enumConstants (cs.put define value.display) rest

/-- What a type gives; its debug entries are numbered from its own start, or else from `start`. -/
def TypeDef.extract (start : Value) : Except Breakdown TypeFields :=
  if t.isEnum then do return { constants := ← enumConstants t [] t.values }
  else
    let first :=
      match t.debugStart with
      | some n => n.toValue
      | none => start
    extractMembers registry t first {} t.members

end Members

end ShaderRecords

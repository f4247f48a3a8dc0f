/-
ShaderRecords.Debug.Dispatch — the function that shows the fields of a record in the debug view.

The function switches over the identifiers of the debug entries. A case converts the value of its field
into a colour. The case of a guarded field stands under the guard, and a case with the same label and a
black result stands under its negation, so the switch has one case per entry whatever the guards are.
-/
import ShaderRecords.Debug.Category
import ShaderRecords.Document.Same
import ShaderRecords.Record.Register
import ShaderRecords.Text.CaseMapping

namespace ShaderRecords

/-- An entry of the debug view. -/
structure DebugField where
  define : String
  /-- A number, in the spelling in which it is written. -/
  id : Value
  field : Value
  category : DebugCategory
  /-- The function that reads a packed value; empty for an ordinary field. -/
  getter : String := ""
  isDirection : Bool := false
  srgb : Bool := false
  checkNormalized : Bool := false
  guard : String := ""
deriving Repr, Inhabited

namespace DebugField

/-- The colour of a value that the expression `e` stands for. -/
def color (f : DebugField) (e : String) : String :=
  match f.category with
  | .scalar => if f.isDirection then e ++ ".xxx * 0.5 + 0.5" else e ++ ".xxx"
  | .vec2 => "float3(" ++ e ++ ", 0.0)"
  | .vec3 =>
    if f.isDirection && f.checkNormalized then
      "IsNormalized(" ++ e ++ ")? " ++ e ++ " * 0.5 + 0.5 : float3(1.0, 0.0, 0.0)"
    else if f.isDirection then e ++ " * 0.5 + 0.5"
    else e
  | .vec4 => e ++ ".xyz"
  | .bool => "(" ++ e ++ ") ? float3(1.0, 1.0, 1.0) : float3(0.0, 0.0, 0.0)"
  | .index => "GetIndexColor(" ++ e ++ ")"

/-- The place of a field of a given name; of several, the last one. -/
def findAccessor? (accessors : List Accessor) (name : Value) : Option Accessor :=
  accessors.reverse.find? fun a => a.field.same name

/-- The expression for the value of an entry of the record `source`. Of an array the first element is
shown. -/
def value (f : DebugField) (source : String) (accessors : List Accessor) : String :=
  if f.getter ≠ "" then f.getter ++ "(" ++ source ++ ")"
  else
    match findAccessor? accessors f.field with
    | some a => a.expression source "0"
    | none => source ++ "." ++ f.field.display

/-- The lines of a case with a result. -/
def shownCase (f : DebugField) (e : String) : List String :=
  ["        case " ++ f.define ++ ":", "            result = " ++ f.color e ++ ";"]
    ++ (if f.srgb then ["            needLinearToSRGB = true;"] else [])
    ++ ["            break;"]

/-- The lines of a case without one. -/
def hiddenCase (f : DebugField) : List String :=
  ["        case " ++ f.define ++ ":", "            result = 0;", "            break;"]

/-- The lines of an entry, `e` being the expression for its value. -/
def caseLines (f : DebugField) (e : String) : List String :=
  if f.guard = "" then f.shownCase e
  else ["#if " ++ f.guard] ++ f.shownCase e ++ ["#else"] ++ f.hiddenCase ++ ["#endif"]

end DebugField

/-- The name of the function that shows the fields of a type. -/
def debugFunctionName (typeName : String) : String :=
  "GetGenerated" ++ typeName ++ "Debug"

/-- The lines of the function that shows the fields of a type. -/
def debugFunctionLines (typeName : String) (fields : List DebugField) (accessors : List Accessor) :
    List String :=
  let source := Text.lower typeName
  ["//", "// Debug functions", "//",
    "void " ++ debugFunctionName typeName ++ "(uint paramId, " ++ typeName ++ " " ++ source
      ++ ", inout float3 result, inout bool needLinearToSRGB)",
    "\x7b", "    switch (paramId)", "    \x7b"]
    ++ fields.flatMap (fun f => f.caseLines (f.value source accessors))
    ++ ["    \x7d", "\x7d"]

/-- Lines as a text, each with its line end. -/
def unlines (lines : List String) : String :=
  String.join (lines.map (· ++ "\n"))

/-- The text of the function that shows the fields of a type. -/
def debugFunction (typeName : String) (fields : List DebugField) (accessors : List Accessor := []) :
    String :=
  unlines (debugFunctionLines typeName fields accessors)

end ShaderRecords

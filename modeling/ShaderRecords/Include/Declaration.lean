/-
ShaderRecords.Include.Declaration — defines and declarations of the types of an include file.
-/
import ShaderRecords.Debug.Dispatch
import ShaderRecords.Description.Basic
import ShaderRecords.Extraction.Members

namespace ShaderRecords

/-- The indentation of a level. -/
def indent : String := "    "

/-- Lines as a comment that stands out. -/
def banner (lines : List String) : String :=
  "//\n" ++ String.join (lines.map fun line => "// " ++ line ++ "\n") ++ "//\n"

/-- The define of a constant. -/
def defineLine (name value : String) : String :=
  "#define " ++ name ++ " (" ++ value ++ ")"

/-- The defines of a type's constants. -/
def definesText (fullName : String) (constants : Constants) : String :=
  banner [fullName ++ ":  static fields"]
    ++ unlines (constants.map fun c => defineLine c.1 c.2) ++ "\n"

/-- The lines that declare a member of a record: under its guard if it has one, with its comment, which has
to be a text, behind it. -/
def memberLines (f : Field) : Except Breakdown (List String) := do
  let remark ← if f.comment.isPresent then (" // " ++ ·) <$> f.comment.asText else .ok ""
  let line := f.declaration ++ ";" ++ remark
  if !f.guard.isPresent then return [indent ++ line]
  else return [indent ++ "#if " ++ f.guard.display, indent ++ line, indent ++ "#endif"]

/-- The line that opens a constant buffer. -/
def bufferOpening (t : TypeDef) : String :=
  if t.constantRegister.toInt ≠ -1 then
    "GLOBAL_CBUFFER_START(" ++ t.name.display ++ ", b" ++ t.constantRegister.display ++ ")"
  else "CBUFFER_START(" ++ t.name.display ++ ")"

/-- The lines that open the declaration of a type. -/
def openingLines (t : TypeDef) : List String :=
  if t.isConstantBuffer then [bufferOpening t]
  else if t.omitDeclaration then []
  else ["struct " ++ t.name.display, "\x7b"]

/-- The lines that close the declaration of a type. -/
def closingLines (t : TypeDef) : List String :=
  if t.isConstantBuffer then ["CBUFFER_END"]
  else if t.omitDeclaration then []
  else ["\x7d;"]

/-- The lines that declare the members of a record. -/
def bodyLines (registers : List Register) : Except Breakdown (List String) := do
  return (← registers.mapM fun r => memberLines r.toField).flatten

/-- The name of the packing rules of a type. -/
def rulesName (t : TypeDef) : String :=
  if t.isAggressive then "Aggressive" else "Exact"

/-- The lines of the declaration of a type. -/
def declarationLines (t : TypeDef) (registers : List Register) : Except Breakdown (List String) := do
  return ["// Generated from " ++ t.fullName.display, "// PackingRules = " ++ rulesName t]
    ++ openingLines t ++ (← bodyLines registers) ++ closingLines t ++ [""]

/-- The declaration of a type. -/
def declarationText (t : TypeDef) (registers : List Register) : Except Breakdown String :=
  unlines <$> declarationLines t registers

end ShaderRecords

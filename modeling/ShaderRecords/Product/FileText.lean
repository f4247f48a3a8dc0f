/-
ShaderRecords.Product.FileText — the frame of include files: header, include guard and companion.
-/
import ShaderRecords.Product.Settings

namespace ShaderRecords.FileText

/-- The comment on top of a file. -/
def header (s : Settings) : String :=
  "//\n// This file was automatically generated. Please don't edit by hand. Execute [ "
    ++ s.command.display ++ " ] instead\n// Source: " ++ s.sourceLabel.display ++ "\n// Source-Version: "
    ++ s.sourceVersion.display ++ "\n// Tool: " ++ toolName ++ " " ++ toolVersion ++ "\n//\n"

/-- The line that includes a companion written by hand. -/
def inclusion (companion : Option String) : String :=
  match companion with
  | some name => "#include \"" ++ name ++ "\"\n"
  | none => ""

/-- A text between the lines of an include guard, followed by the companion. -/
def guarded (guard content : String) (companion : Option String) : String :=
  "\n#ifndef " ++ guard ++ "\n#define " ++ guard ++ "\n" ++ content ++ "\n#endif\n"
    ++ inclusion companion

/-- The file of types and bindings. -/
def ofTypes (s : Settings) (guard body bindings : String) (companion : Option String) : String :=
  header s ++ guarded guard (body ++ "\n" ++ bindings) companion

/-- The file of pragmas. -/
def ofPragmas (s : Settings) (guard : String) (pragmas : List String) (companion : Option String) :
    String :=
  header s ++ guarded guard ("\n" ++ String.join pragmas) companion

end ShaderRecords.FileText

/-
ShaderRecords.Description.Error — problems with a document as a whole.
-/
import ShaderRecords.Failure
import ShaderRecords.Report

namespace ShaderRecords

/-- A problem with a document as a whole. -/
inductive DocumentError where
  /-- The file cannot be opened. -/
  | unreadable (path : String) (e : FileError)
  | notYaml (path : String)
  | notMapping (path : String)
  /-- The schema forbids what stands at a place of the document. -/
  | invalid (place : String) (message : String)
  | badVersion
  | missingPath
  | duplicateType (name : Value) (first second : String)
deriving Repr

namespace DocumentError

/-- The code of the problem. -/
def code : DocumentError → String
  | duplicateType .. => "E_DUP_TYPE_NAME"
  | _ => "E_SPEC_INVALID"

/-- The message of the problem. -/
def message : DocumentError → String
  | unreadable path e => "cannot read " ++ path ++ ": " ++ e.message
  | notYaml path => path ++ " is not valid YAML: no value can be read from it"
  | notMapping path => path ++ " does not contain a mapping"
  | invalid place message => "document validation failed at " ++ place ++ ": " ++ message
  | badVersion => "meta.version must be a semantic version string 'major.minor.patch'"
  | missingPath => "every source needs a 'path'"
  | duplicateType name first second =>
    "type '" ++ name.display ++ "' declared in both '" ++ first ++ "' and '" ++ second ++ "'"

/-- What the problem is about. -/
def context : DocumentError → Option Entries
  | invalid place _ => some [("path", place)]
  | duplicateType name _ _ => some [("type", name)]
  | _ => none

/-- The problem as it is told. -/
def report (e : DocumentError) : Report where
  category := .specification
  code := e.code
  message := e.message
  context := e.context

end DocumentError

end ShaderRecords

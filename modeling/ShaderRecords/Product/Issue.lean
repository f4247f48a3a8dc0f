/-
ShaderRecords.Product.Issue — every problem that a run can tell.
-/
import ShaderRecords.Binding.Error
import ShaderRecords.Description.Error
import ShaderRecords.Extraction.Error
import ShaderRecords.Files.Replacement
import ShaderRecords.Record.Packing

namespace ShaderRecords

/-- A problem of one of the stages of a run. -/
inductive Issue where
  | extraction (e : ExtractionError)
  | packing (e : PackingError)
  | directive (e : DirectiveError)
  | binding (e : BindingError)
  | document (e : DocumentError)
  | writing (e : WriteError)
deriving Repr

/-- The problem as it is told. -/
def Issue.report : Issue → Report
  | extraction e => e.report
  | packing e => e.report
  | directive e => e.report
  | binding e => e.report
  | document e => e.report
  | writing e => e.report

end ShaderRecords

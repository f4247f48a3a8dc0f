/-
ShaderRecords.Proofs.Product.Checking — a source that is only checked is told what its texts would tell.

A source can be worked on with the texts of its files or without. Writing the pieces of a type has a problem of
its own to tell, a layout without a value type. The resolver never hands one out: neither does it make such a
layout, nor does it remember one that was made before (`Resolver.IsTyped`). So each type gives the same with
pieces and without, but the pieces (`TypeProduct.run_build_withoutPieces`), a source gives the same but texts
and pieces, and where a function for a packed value is due there is one (`SourceProduct.build_withTexts`). This
holds of any types, also of types that share a name and with it what is remembered.
-/
import ShaderRecords.Proofs.Include.Functions
import ShaderRecords.Proofs.Product.Siblings

namespace ShaderRecords

/-! ## Remembered layouts -/

/-- Whether all remembered layouts have value types. -/
def Resolver.IsTyped (r : Resolver) : Prop :=
  ∀ e ∈ r.known, e.2.valueType?.isSome = true

/-- What is resolved has value types, whether it is remembered or made. -/
theorem isTyped_of_resolveAll {r : Resolver} (hr : r.IsTyped) (t : TypeDef) (members : List Member) :
    ((TypeProduct.resolveAll t members).outcome r).2.IsTyped
      ∧ ∀ ls, ((TypeProduct.resolveAll t members).outcome r).1 = .ok ls →
        ∀ l ∈ ls, l.valueType?.isSome = true :=
  keeps_resolveAll (P := fun l => l.valueType?.isSome = true)
    (fun _ _ _ _ _ => Layout.isSome_valueType?_of_ofDirective) r hr

/-! ## Types -/

namespace TypeProduct

variable {registry : Registry} {settings : Settings} {owner : Int} {t : TypeDef} {p q : TypeProduct}
  {r r' : Resolver}

/-- A product without its pieces. -/
def withoutPieces (p : TypeProduct) : TypeProduct :=
  { p with fragments := [] }

theorem withoutPieces_of_fragments_eq_nil (h : p.fragments = []) : p.withoutPieces = p := by
  cases p
  simp_all [withoutPieces]

/-- A product whose layouts have value types and whose pieces have a function for each of them. -/
structure WritesFunctions (p : TypeProduct) : Prop where
  valueTypes : ∀ l ∈ p.layouts, l.valueType?.isSome = true
  functions : ∀ f ∈ p.fragments, f.HasFunctions p.layouts

theorem writesFunctions_of_nil (hlayouts : p.layouts = []) (hfragments : p.fragments = []) :
    p.WritesFunctions where
  valueTypes := by simp [hlayouts]
  functions := by simp [hfragments]

/-- Pieces are written for layouts with value types without a problem of their own. -/
theorem withFragments_eq_ok {packingInclude : Value} (hissues : p.issues = [])
    (htypes : ∀ l ∈ p.layouts, l.valueType?.isSome = true)
    (h : p.withFragments packingInclude owner = .ok q) :
    q.withoutPieces = p.withoutPieces ∧ q.WritesFunctions := by
  obtain ⟨pieces, -, -, hpieces⟩ := exists_withFragments packingInclude htypes
  have hq := h
  rw [hpieces owner] at hq
  obtain ⟨fs, -, rfl⟩ := exists_of_map_eq_ok hq
  refine ⟨by simp [withoutPieces, ownedBy, hissues], htypes, fun f hf => ?_⟩
  obtain ⟨name, all, told, -, hall, heq⟩ := exists_fragments_of_withFragments h
  have hfragments : fs.map (Fragment.ownedBy owner) = all := congrArg TypeProduct.fragments heq
  exact RecordView.hasFunctions_of_mem_fragments htypes hall (hfragments ▸ hf)

/-- What becomes of a product without pieces when its layouts have been resolved: with pieces it gives the same
but the pieces. -/
theorem withResolved_withoutPieces {layouts : Except (Failure DirectiveError) (List (Layout Number))}
    (hp : p.fragments = []) (hlayouts : p.layouts = []) (hissues : p.issues = [])
    (htypes : ∀ ls, layouts = .ok ls → ∀ l ∈ ls, l.valueType?.isSome = true)
    (h : withResolved settings owner true p layouts = .ok q) :
    withResolved settings owner false p layouts = .ok q.withoutPieces ∧ q.WritesFunctions := by
  obtain ⟨e, rfl, rfl⟩ | ⟨ls, rfl, ⟨hfalse, -⟩ | ⟨-, h⟩⟩ := withResolved_cases h
  · refine ⟨?_, writesFunctions_of_nil hlayouts hp⟩
    rw [withoutPieces_of_fragments_eq_nil (by exact hp)]
    rfl
  · cases hfalse
  · obtain ⟨heq, hwrites⟩ := withFragments_eq_ok (p := { p with layouts := ls }) hissues (htypes ls rfl) h
    refine ⟨?_, hwrites⟩
    rw [heq, withoutPieces_of_fragments_eq_nil (by exact hp)]
    rfl

/-- A prepared product has no layouts yet. -/
theorem layouts_of_prepared {ended : Bool} (h : prepared registry settings t = .ok (p, ended)) :
    p.layouts = [] := by
  obtain ⟨extracted, -, hcases⟩ := prepared_cases h
  rcases hcases with ⟨-, -, rfl⟩ | ⟨-, -, _, -, rfl⟩ | ⟨-, -, _, -, rfl⟩ <;> rfl

/-- A type that gives something with pieces gives the same without, and leaves the same resolver. -/
theorem run_build_withoutPieces (hr : r.IsTyped)
    (h : (build registry settings owner true t).run r = .ok (q, r')) :
    (build registry settings owner false t).run r = .ok (q.withoutPieces, r') ∧ r'.IsTyped
      ∧ q.WritesFunctions := by
  rcases run_build_eq_ok_iff.mp h with ⟨hprepared, rfl⟩ | ⟨p, hprepared, hq, rfl⟩
  · have hempty := (isPrepared_of_prepared hprepared).fragments_eq_nil
    refine ⟨run_build_eq_ok_iff.mpr (.inl ⟨?_, rfl⟩), hr,
      writesFunctions_of_nil (layouts_of_prepared hprepared) hempty⟩
    rw [withoutPieces_of_fragments_eq_nil hempty, hprepared]
  · have hp := isPrepared_of_prepared hprepared
    have hissues : p.issues = [] := by simpa [isFine] using hp.isFine_eq
    obtain ⟨htyped, hgiven⟩ := isTyped_of_resolveAll hr t p.extracted.packedMembers
    obtain ⟨hwithout, hwrites⟩ :=
      withResolved_withoutPieces hp.fragments_eq_nil (layouts_of_prepared hprepared) hissues hgiven hq
    exact ⟨run_build_eq_ok_iff.mpr (.inr ⟨p, hprepared, hwithout, rfl⟩), htyped, hwrites⟩

/-- Types that give something with pieces give the same without. -/
theorem run_buildAll_withoutPieces {ts : List TypeDef} {qs : List TypeProduct} (hr : r.IsTyped)
    (h : (buildAll registry settings true owner ts).run r = .ok (qs, r')) :
    (buildAll registry settings false owner ts).run r = .ok (qs.map withoutPieces, r')
      ∧ ∀ q ∈ qs, q.WritesFunctions := by
  induction ts generalizing owner r qs with
  | nil =>
    obtain ⟨rfl, rfl⟩ := Prod.mk.inj (Except.ok.inj h)
    exact ⟨rfl, by simp⟩
  | cons t ts ih =>
    obtain ⟨q, s, rest, hq, hrest, rfl⟩ := run_buildAll_cons_eq_ok_iff.mp h
    obtain ⟨hfirst, hs, hwrites⟩ := run_build_withoutPieces hr hq
    obtain ⟨hothers, hall⟩ := ih hs hrest
    exact ⟨run_buildAll_cons_eq_ok_iff.mpr ⟨_, s, _, hfirst, hothers, rfl⟩,
      List.forall_mem_cons.mpr ⟨hwrites, hall⟩⟩

end TypeProduct

/-! ## Sources -/

namespace SourceProduct

variable {registry : Registry} {settings : Settings} {s : Source} {p q : SourceProduct}

/-- A source that is planned with pieces is planned without, and gives the same but the pieces. -/
theorem plan_withoutPieces (h : plan registry settings true s = .ok q) :
    plan registry settings false s = .ok { q with types := q.types.map TypeProduct.withoutPieces }
      ∧ ∀ t ∈ q.types, t.WritesFunctions := by
  obtain ⟨hparts, hbindings, types, r, pragmas, htypes, hpragmas, rfl⟩ := plan_eq_ok_iff.mp h
  obtain ⟨hwithout, hwrites⟩ := TypeProduct.run_buildAll_withoutPieces (by simp [Resolver.IsTyped]) htypes
  exact ⟨plan_eq_ok_iff.mpr ⟨hparts, hbindings, _, _, pragmas, hwithout, hpragmas, rfl⟩, hwrites⟩

/-- A source that gives something with texts and without tells the same problems in the same order, and its
types have the same registers and layouts. All layouts have value types; the texts of the files are made of the
pieces, and where functions for packed values stand in these there is one for each layout, and no marker. -/
theorem build_withTexts {files files' : (c : FileCommand) → c.Answer}
    (hchecked : Filing.result files (build registry settings false s) = .ok p)
    (hwritten : Filing.result files' (build registry settings true s) = .ok q) :
    q.allIssues = p.allIssues
      ∧ q.types.map (·.registers) = p.types.map (·.registers)
      ∧ q.types.map (·.layouts) = p.types.map (·.layouts)
      ∧ (∃ hasCompanion, q.outputs = q.texts settings hasCompanion)
      ∧ ∀ t ∈ q.types, (∀ l ∈ t.layouts, l.valueType?.isSome = true)
        ∧ ∀ f ∈ t.fragments, f.HasFunctions t.layouts := by
  obtain ⟨whole, hwhole, hrender⟩ := result_build_eq_ok_iff.mp hwritten
  obtain ⟨hfalse, -⟩ | ⟨-, hasCompanion, rfl, -⟩ := hrender
  · simp at hfalse
  obtain ⟨plain, hplain, hrender⟩ := result_build_eq_ok_iff.mp hchecked
  obtain ⟨-, rfl⟩ | ⟨htrue, -⟩ := hrender
  · obtain ⟨hwithout, hwrites⟩ := plan_withoutPieces hwhole
    obtain rfl := Except.ok.inj (hwithout.symm.trans hplain)
    refine ⟨?_, ?_, ?_, ⟨hasCompanion, rfl⟩, fun t ht => ⟨(hwrites t ht).valueTypes, (hwrites t ht).functions⟩⟩
    · simp [allIssues, TypeProduct.withoutPieces, List.flatMap_map]
    · simp [TypeProduct.withoutPieces]
    · simp [TypeProduct.withoutPieces]
  · simp at htrue

/-- A record that stores a fraction and asks for an unknown scheme, one that stores two values in a word, and a
buffer that does not say what it holds. -/
def storingSource : Source where
  path := "Lights.cs"
  types := [
    { name := "Broken", fullName := "Broken",
      members := [
        { name := "flags", type := "uint",
          packing := [{ scheme := "PackedFloat", offset := 0, width := some 8 }, { scheme := "Bits" }] }] },
    { name := "Light", fullName := "Light",
      members := [
        { name := "flags", type := "uint",
          packing := [{ labels := ["mode"], scheme := "PackedUint", offset := 0, width := some 8 },
            { scheme := "NoPacking" }] }] }]
  bindings := [{ name := "lights", type := "ComputeBuffer" }]

/-- Its two problems are told with texts and without, and both times two layouts are there. -/
theorem build_withTexts_of_storingSource :
    let registry : Registry := ⟨[], storingSource.types⟩
    let settings : Settings :=
      { outDir := ⟨"", ["out"]⟩, sourceLabel := "types.yaml", packingInclude := .null, debugStart := .int 1,
        command := "generate", emitManifest := true }
    ∃ p q, Filing.result noFiles (build registry settings false storingSource) = .ok p
      ∧ Filing.result noFiles (build registry settings true storingSource) = .ok q
      ∧ p.allIssues.length = 2 ∧ p.types.map (·.layouts.length) = [0, 2]
      ∧ q.allIssues = p.allIssues ∧ q.types.map (·.layouts) = p.types.map (·.layouts)
      ∧ ∀ t ∈ q.types, ∀ f ∈ t.fragments, f.HasFunctions t.layouts := by
  intro registry settings
  have hchecked : (fun p : SourceProduct => (p.allIssues.length, p.types.map (·.layouts.length)))
      <$> Filing.result noFiles (build registry settings false storingSource) = .ok (2, [0, 2]) := by
    decide
  have hwritten : (·.outputs.length) <$> Filing.result noFiles (build registry settings true storingSource)
      = .ok 2 := by
    decide +kernel
  obtain ⟨p, hp, hcounts⟩ := exists_of_map_eq_ok hchecked
  obtain ⟨q, hq, -⟩ := exists_of_map_eq_ok hwritten
  obtain ⟨hissues, hlayouts⟩ := Prod.mk.inj hcounts
  obtain ⟨hsame, -, hsameLayouts, -, hfunctions⟩ := build_withTexts hp hq
  exact ⟨p, q, hp, hq, hissues, hlayouts, hsame, hsameLayouts, fun t ht => (hfunctions t ht).2⟩

end SourceProduct

end ShaderRecords

/-
ShaderRecords.Proofs.Product.SourceProduct — what a source gives, part by part.

`plan_eq_ok_iff` takes the making of a source's products apart: the products can be named, the types give what they
give one after another, no binding breaks down, and the keywords and kernels have their lines. Where the types have
different names each gives what it gives alone (`plan_eq_ok_iff_of_typesDiffer`). What a plan gives then is `planned`,
where the pieces of types and of bindings stand under the numbers of their owners. `result_build` adds the files: a
source is planned, and when texts are asked for its companion is looked for.

`texts_eq` says which texts the files have, in terms of the four parts that are made of the types, bindings
and keywords of a source: `bodyText`, `bindingsText`, the pragmas and `manifestTypes`. A part that stands in
no file is empty.
-/
import ShaderRecords.Product.SourceProduct
import ShaderRecords.Proofs.Files.Answers
import ShaderRecords.Proofs.Product.TypeProduct

namespace ShaderRecords

/-! ## Bindings -/

namespace Binding

/-- Whether a binding is declared without a problem. -/
def isFine (declared : List String) (b : Binding) : Bool :=
  match b.text declared with
  | .ok _ => true
  | .error _ => false

/-- The piece of a binding, unless it has a problem. -/
def pieces (declared : List String) (b : Binding) : List Fragment :=
  match b.text declared with
  | .ok text => [⟨.binding, text, 0⟩]
  | .error _ => []

/-- The problem of a binding, if it has one. -/
def problems (declared : List String) (b : Binding) : List Issue :=
  match b.text declared with
  | .error (.issue e) => [.binding e]
  | _ => []

variable {declared : List String} {b : Binding}

end Binding

namespace SourceProduct

/-- Bindings are declared if none of them breaks down: those without a problem have their pieces, and the
others are told. -/
theorem declareBindings_eq_ok_iff {declared : List String} {owner : Int} {bs : List Binding}
    {given : List Fragment × List Issue} :
    declareBindings declared owner bs = .ok given
      ↔ (∀ b ∈ bs, Unbroken (b.text declared))
        ∧ given = (Fragment.numberFrom owner (bs.map (Binding.pieces declared)),
          bs.flatMap (Binding.problems declared)) := by
  induction bs generalizing owner given with
  | nil => simp [declareBindings, Fragment.numberFrom, eq_comm]
  | cons b bs ih =>
    rw [declareBindings, List.forall_mem_cons, List.map_cons, List.flatMap_cons, Fragment.numberFrom]
    cases hb : b.text declared with
    | error failure =>
      cases failure with
      | breakdown e =>
        simp only [false_iff, reduceCtorEq]
        rintro ⟨⟨hunbroken, -⟩, -⟩
        exact hunbroken e rfl
      | issue e =>
        simp only [bind_eq_ok_iff, ih, Binding.pieces, Binding.problems, hb, unbroken_issue, true_and]
        constructor
        · rintro ⟨_, ⟨hrest, rfl⟩, h⟩
          exact ⟨hrest, (Except.ok.inj h).symm⟩
        · rintro ⟨hrest, rfl⟩
          exact ⟨_, ⟨hrest, rfl⟩, rfl⟩
    | ok text =>
      simp only [bind_eq_ok_iff, ih, Binding.pieces, Binding.problems, hb, unbroken_ok, true_and]
      constructor
      · rintro ⟨_, ⟨hrest, rfl⟩, h⟩
        exact ⟨hrest, (Except.ok.inj h).symm⟩
      · rintro ⟨hrest, rfl⟩
        exact ⟨_, ⟨hrest, rfl⟩, rfl⟩

/-! ## Plans -/

/-- The path that the files of a source are named after. -/
def base (settings : Settings) (s : Source) : Path :=
  settings.outDir.join (.ofText s.path)

/-- What a source gives whose types give `types` each alone, and whose keywords and kernels have the lines
`pragmas`. -/
def planned (registry : Registry) (settings : Settings) (s : Source) (types : List TypeProduct)
    (pragmas : List String) : SourceProduct where
  source := s
  includeTarget := (base settings s).sibling ((Path.ofText s.path).name ++ ".hlsl")
  pragmaTarget := (base settings s).sibling ((Path.ofText s.path).name ++ ".pragmas.hlsl")
  manifestTarget := (base settings s).sibling ((Path.ofText s.path).name ++ ".fields.json")
  types := TypeProduct.numbered 0 types
  bindingFragments := Fragment.numberFrom 0 (s.bindings.map (Binding.pieces registry.names))
  pragmas := pragmas
  issues := s.bindings.flatMap (Binding.problems registry.names)

end SourceProduct

/-- Whether the types of a source have different names, as the types of a description have. -/
def Source.TypesDiffer (s : Source) : Prop :=
  s.types.Pairwise fun a b => a.name.same b.name = false

namespace SourceProduct

variable {registry : Registry} {settings : Settings} {render : Bool} {s : Source} {p : SourceProduct}
  {types : List TypeProduct} {pragmas : List String} {files : (c : FileCommand) → c.Answer}

theorem withName_eq_ok_iff {base q : Path} {name : String} :
    base.withName name = .ok q ↔ base.parts ≠ [] ∧ q = base.sibling name := by
  unfold Path.withName
  split <;> simp_all [eq_comm]

/-- The parts of a plan. -/
theorem plan_eq_ok_iff :
    plan registry settings render s = .ok p
      ↔ (base settings s).parts ≠ [] ∧ (∀ b ∈ s.bindings, Unbroken (b.text registry.names))
        ∧ ∃ types r pragmas, (TypeProduct.buildAll registry settings render 0 s.types).run {} = .ok (types, r)
          ∧ pragmaLines s = .ok pragmas ∧ p = { planned registry settings s [] pragmas with types := types } := by
  unfold plan
  simp only [bind_eq_ok_iff, withName_eq_ok_iff, declareBindings_eq_ok_iff]
  constructor
  · rintro ⟨_, ⟨hparts, rfl⟩, _, ⟨-, rfl⟩, _, ⟨-, rfl⟩, ⟨types, r⟩, htypes, _, ⟨hbindings, rfl⟩, pragmas,
      hpragmas, h⟩
    exact ⟨hparts, hbindings, types, r, pragmas, htypes, hpragmas, (Except.ok.inj h).symm⟩
  · rintro ⟨hparts, hbindings, types, r, pragmas, htypes, hpragmas, rfl⟩
    exact ⟨_, ⟨hparts, rfl⟩, _, ⟨hparts, rfl⟩, _, ⟨hparts, rfl⟩, (types, r), htypes, _, ⟨hbindings, rfl⟩, pragmas,
      hpragmas, rfl⟩

/-- Types with different names give what they give alone. -/
theorem plan_eq_ok_iff_of_typesDiffer (hdiffer : s.TypesDiffer) :
    plan registry settings render s = .ok p
      ↔ (base settings s).parts ≠ [] ∧ (∀ b ∈ s.bindings, Unbroken (b.text registry.names))
        ∧ ∃ types pragmas, s.types.mapM (TypeProduct.alone registry settings render) = .ok types
          ∧ pragmaLines s = .ok pragmas ∧ p = planned registry settings s types pragmas := by
  have hbuild := TypeProduct.run_buildAll registry settings render
    (r := {}) 0 hdiffer fun _ _ => by simp [Resolver.IsSilentOn]
  rw [plan_eq_ok_iff]
  refine and_congr_right fun _ => and_congr_right fun _ => ?_
  constructor
  · rintro ⟨ps, r, pragmas, hps, hpragmas, rfl⟩
    rw [hps] at hbuild
    obtain ⟨types, htypes, rfl⟩ := exists_of_map_eq_ok hbuild.symm
    exact ⟨types, pragmas, htypes, hpragmas, rfl⟩
  · rintro ⟨types, pragmas, htypes, hpragmas, rfl⟩
    rw [htypes] at hbuild
    obtain ⟨⟨ps, r⟩, hps, rfl⟩ := exists_of_map_eq_ok hbuild
    exact ⟨_, r, pragmas, hps, hpragmas, rfl⟩

/-- A source is planned, and its companion is looked for where texts are asked for. -/
theorem result_build :
    Filing.result files (build registry settings render s) = plan registry settings render s >>= fun p =>
      if !render then .ok p
      else (if p.hasInclude || p.hasPragmas then Filing.result files (Filing.isThere p.companion)
        else .ok false) >>= fun hasCompanion => .ok { p with outputs := p.texts settings hasCompanion } := by
  unfold build
  rw [Filing.result_bind, Filing.result_lift]
  congr 1
  funext p
  cases render with
  | false => rfl
  | true =>
    simp only [Bool.not_true, Bool.false_eq_true, if_false]
    split
    · exact Filing.result_bind files (Filing.isThere p.companion) _
    · rfl

/-- The texts of a source are made of its plan, if its companion can be looked for. -/
theorem result_build_eq_ok_iff :
    Filing.result files (build registry settings render s) = .ok p
      ↔ ∃ whole, plan registry settings render s = .ok whole
        ∧ ((render = false ∧ p = whole)
          ∨ render = true ∧ ∃ hasCompanion, p = { whole with outputs := whole.texts settings hasCompanion }
            ∧ (if whole.hasInclude || whole.hasPragmas then
              Filing.result files (Filing.isThere whole.companion) else .ok false) = .ok hasCompanion) := by
  rw [result_build, bind_eq_ok_iff]
  refine exists_congr fun whole => and_congr_right fun _ => ?_
  cases render with
  | false =>
    simp only [Bool.not_false, if_true, true_and, Bool.false_eq_true, false_and, or_false, Except.ok.injEq]
    exact eq_comm
  | true =>
    simp only [Bool.not_true, Bool.false_eq_true, if_false, false_and, true_and, false_or, bind_eq_ok_iff,
      Except.ok.injEq, reduceCtorEq]
    exact exists_congr fun hasCompanion => ⟨fun h => ⟨h.2.symm, h.1⟩, fun h => ⟨h.2, h.1.symm⟩⟩

/-- What is built is what is planned, with the texts of its files if these are asked for. -/
theorem exists_outputs_of_build (h : Filing.result files (build registry settings render s) = .ok p) :
    ∃ whole outputs, plan registry settings render s = .ok whole ∧ p = { whole with outputs := outputs }
      ∧ (outputs = [] ∨ ∃ hasCompanion, outputs = whole.texts settings hasCompanion) := by
  obtain ⟨whole, hwhole, ⟨-, rfl⟩ | ⟨-, hasCompanion, rfl, -⟩⟩ := result_build_eq_ok_iff.mp h
  · obtain ⟨-, -, types, r, pragmas, -, -, rfl⟩ := plan_eq_ok_iff.mp hwhole
    exact ⟨_, [], hwhole, rfl, .inl rfl⟩
  · exact ⟨whole, _, hwhole, rfl, .inr ⟨hasCompanion, rfl⟩⟩

/-! ## Parts of files -/

/-- The pieces of bindings, or all others. -/
def piecesOf (p : SourceProduct) (isBinding : Bool) : List Fragment :=
  (p.typeFragments ++ p.bindingFragments).filter fun f => (f.kind == .binding) == isBinding

/-- The text of the types in the include file; empty where there is none. -/
def bodyText (p : SourceProduct) : String :=
  if p.hasInclude then Fragment.render (p.piecesOf false) else ""

/-- The text of the bindings in the include file; empty where there is none. -/
def bindingsText (p : SourceProduct) : String :=
  if p.hasInclude then Fragment.render (p.piecesOf true) else ""

/-- The text of the pragmas; empty where there are none. -/
def pragmasText (p : SourceProduct) : String :=
  if p.hasPragmas then String.join p.pragmas else ""

/-- What the manifest says about the types; nothing where there is no manifest. -/
def manifestTypes (settings : Settings) (p : SourceProduct) : List Value :=
  if settings.emitManifest && !p.source.types.isEmpty then (p.types.filter (·.isFine)).map Manifest.type
  else []

/-- A manifest that says something about types. -/
def manifestText (settings : Settings) (target : String) (types : List Value) : String :=
  Json.render 0 (.map [("source", settings.sourceLabel), ("source_version", settings.sourceVersion),
    ("tool_version", toolVersion), ("target", target), ("types", .list types)]) ++ "\n"

/-- The texts of the files are made of the parts. -/
theorem texts_eq (hasCompanion : Bool) : p.texts settings hasCompanion =
    let companion := if hasCompanion then some p.companion.name else none
    (if p.hasInclude then
      [(p.includeTarget, FileText.ofTypes settings (Identifier.includeGuard p.includeTarget.name)
        p.bodyText p.bindingsText companion)] else [])
    ++ (if p.hasPragmas then
      [(p.pragmaTarget, FileText.header settings ++ FileText.guarded
        (Identifier.includeGuard p.pragmaTarget.name) ("\n" ++ p.pragmasText) companion)] else [])
    ++ (if settings.emitManifest && !p.source.types.isEmpty then
      [(p.manifestTarget, manifestText settings p.includeTarget.name (p.manifestTypes settings))]
      else []) := by
  have hinclude : p.hasInclude = true →
      p.bodyText = Fragment.render (p.piecesOf false) ∧ p.bindingsText = Fragment.render (p.piecesOf true) :=
    fun h => ⟨if_pos h, if_pos h⟩
  have hpragmas : p.hasPragmas = true → p.pragmasText = String.join p.pragmas := fun h => if_pos h
  have hmanifest : (settings.emitManifest && !p.source.types.isEmpty) = true →
      manifestTypes settings p = (p.types.filter (·.isFine)).map Manifest.type := fun h => if_pos h
  unfold texts
  refine congr_arg₂ (· ++ ·) (congr_arg₂ (· ++ ·) ?_ ?_) ?_
  · split
    next h => rw [(hinclude h).1, (hinclude h).2]; rfl
    next => rfl
  · split
    next h => rw [hpragmas h]; rfl
    next => rfl
  · split
    next h => rw [hmanifest h]; rfl
    next => rfl

/-! ## Parts of plans -/

end SourceProduct

end ShaderRecords

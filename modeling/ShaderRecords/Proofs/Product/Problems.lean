/-
ShaderRecords.Proofs.Product.Problems — the problems that the product of a source lists.

Problems are met where types are extracted, packed and resolved (`TypeDef.problems`), where bindings are declared
(`Binding.problems`) and where files are written. `SourceProduct.Lists` says that a product has them all, each one
once and in order: those of a type with the type, those of the bindings behind them, and then one for each file that
has been skipped. A plan lists the problems of its source (`SourceProduct.lists_of_plan`), and so does what becomes of
it when its files are written (`SourceProduct.Sorts.lists`).

Every problem is told with a code (`Issue.code_ne_empty`).
-/
import ShaderRecords.Proofs.Product.Delivery
import ShaderRecords.Proofs.Product.SourceProduct

namespace ShaderRecords

/-! ## Codes -/

theorem DocumentError.code_ne_empty (e : DocumentError) : e.code ≠ "" := by
  unfold DocumentError.code
  split <;> simp

/-- Every problem is told with a code. -/
theorem Issue.code_ne_empty (issue : Issue) : issue.report.code ≠ "" := by
  cases issue with
  | extraction e =>
    show e.code ≠ ""
    unfold ExtractionError.code
    split <;> simp
  | packing e =>
    show e.code ≠ ""
    unfold PackingError.code
    split <;> simp
  | directive e =>
    show e.code ≠ ""
    unfold DirectiveError.code
    split <;> simp
  | binding e =>
    show e.code ≠ ""
    unfold BindingError.code
    split <;> simp
  | document e => exact e.code_ne_empty
  | writing e =>
    show "E_WRITE_ACCESS" ≠ ""
    simp

/-! ## Problems of a type -/

/-- The problem of resolving requests, if there is one. -/
def TypeProduct.requestProblems : Except (Failure DirectiveError) (List (Layout Number)) → List Issue
  | .error (.issue e) => [.directive e]
  | _ => []

/-- The problems of a type, whose first debug entry has the number `start`: those of its members, or else the one of
packing its fields, or else the one of resolving the requests of its members. -/
def TypeDef.problems (registry : Registry) (start : Value) (t : TypeDef) : List Issue :=
  match t.extract registry start with
  | .error _ => []
  | .ok extracted =>
    if !extracted.errors.isEmpty then extracted.errors.map .extraction
    else match pack t.rules extracted.fields with
      | .error (.breakdown _) => []
      | .error (.issue e) => [.packing e]
      | .ok _ => TypeProduct.requestProblems ((TypeProduct.resolveAll t extracted.packedMembers).outcome {}).1

namespace TypeProduct

variable {registry : Registry} {settings : Settings} {render : Bool} {t : TypeDef} {p q : TypeProduct}

/-- Whether texts are asked for or not, no problem comes after the layouts have been resolved. -/
theorem issues_of_withResolved {owner : Int} (hfine : q.issues = [])
    (h : withResolved settings owner render q q.ownLayouts = .ok p) : p.issues = requestProblems q.ownLayouts := by
  obtain ⟨e, hlayouts, rfl⟩ | ⟨layouts, hlayouts, ⟨-, rfl⟩ | ⟨-, h⟩⟩ := withResolved_cases h
  · rw [hlayouts, requestProblems]
  · rw [hlayouts]
    exact hfine
  -- Writing the pieces tells no problem, since each layout that has been resolved has a value type.
  · obtain ⟨_, -, -, hpieces⟩ := exists_withFragments (p := { q with layouts := layouts }) settings.packingInclude
      (isSome_valueType?_of_ownLayouts hlayouts)
    rw [hpieces owner] at h
    obtain ⟨_, -, rfl⟩ := exists_of_map_eq_ok h
    rw [hlayouts]
    rfl

/-- The product of a type has the problems of the type. -/
theorem issues_of_alone (h : alone registry settings render t = .ok p) :
    p.issues = t.problems registry settings.debugStart := by
  rw [alone_eq] at h
  obtain ⟨⟨q, ended⟩, hprepared, h⟩ := bind_eq_ok_iff.mp h
  obtain ⟨extracted, hextract, hcases⟩ := prepared_cases hprepared
  rw [TypeDef.problems, hextract]
  dsimp only at h ⊢
  rcases hcases with ⟨herrors, rfl, rfl⟩ | ⟨hnone, rfl, e, hpack, rfl⟩ | ⟨hnone, rfl, registers, hpack, rfl⟩
  · obtain rfl := Except.ok.inj h
    rw [if_pos (by simpa using herrors)]
  · obtain rfl := Except.ok.inj h
    rw [if_neg (by simp [hnone]), hpack]
  · rw [if_neg (by simp)] at h
    rw [if_neg (by simp [hnone]), hpack, issues_of_withResolved rfl h]
    rfl

end TypeProduct

namespace SourceProduct

/-! ## Problems of a source -/

/-- Whether a product lists the problems of a source: each type of the source has its own, and behind those of the
types are those of the bindings, followed by one for each file that has been skipped. -/
structure Lists (registry : Registry) (start : Value) (s : Source) (p : SourceProduct) : Prop where
  source_eq : p.source = s
  types_eq : p.types.map (fun q => (q.typeDef, q.issues)) = s.types.map fun t => (t, t.problems registry start)
  issues_eq : ∃ writings : List WriteError, writings.map (·.target) = p.skipped
    ∧ p.issues = s.bindings.flatMap (Binding.problems registry.names) ++ writings.map .writing

variable {registry : Registry} {settings : Settings} {render : Bool} {start : Value} {s : Source}
  {p p' : SourceProduct}

/-- A plan lists the problems of the types and bindings; no file has been skipped yet. -/
theorem lists_of_plan (hdiffer : s.TypesDiffer) (h : plan registry settings render s = .ok p) :
    Lists registry settings.debugStart s p := by
  obtain ⟨-, -, types, pragmas, htypes, -, rfl⟩ := (plan_eq_ok_iff_of_typesDiffer hdiffer).mp h
  refine ⟨rfl, ?_, [], rfl, (List.append_nil _).symm⟩
  -- The number of a type changes its pieces only.
  have hnumbered := @TypeProduct.map_filter_numbered _ (fun q => (q.typeDef, q.issues)) (fun _ => true)
    (fun _ _ => rfl) (fun _ _ => rfl) 0 types
  rw [List.filter_true, List.filter_true] at hnumbered
  rw [planned, hnumbered]
  refine (map_eq_map_of_forall₂ ((mapM_eq_ok_iff.mp htypes).imp fun t q hq => ?_)).symm
  rw [(TypeProduct.sound_of_alone hq).2, TypeProduct.issues_of_alone hq]

/-- Texts for the files leave the problems as they are. -/
theorem yields_build (registry : Registry) (settings : Settings) (render : Bool) (hdiffer : s.TypesDiffer) :
    Filing.Yields (build registry settings render s) (Lists registry settings.debugStart s) := by
  unfold build
  refine (Filing.yields_lift _).bind fun p hp => ?_
  have hlists := lists_of_plan hdiffer hp
  split
  · exact Filing.yields_pure hlists
  · have hrest : ∀ hasCompanion, Filing.Yields (pure { p with outputs := p.texts settings hasCompanion })
        (Lists registry settings.debugStart s) :=
      fun _ => Filing.yields_pure ⟨hlists.source_eq, hlists.types_eq, hlists.issues_eq⟩
    dsimp only
    split <;> exact (Filing.yields_any _).bind fun hasCompanion _ => hrest hasCompanion

/-- The files that have been skipped are the targets of the problems with them. -/
theorem map_target_problems {fates : List (Path × Fate)}
    (h : ∀ path fate, (path, fate) ∈ fates → ∀ e, fate.problem? = some e → e.target = path) :
    (fates.filterMap (·.2.problem?)).map (·.target) = (fates.filter (·.2.problem?.isSome)).map (·.1) := by
  induction fates with
  | nil => rfl
  | cons entry fates ih =>
    obtain ⟨path, fate⟩ := entry
    have hrest := ih fun path' fate' hmem => h path' fate' (List.mem_cons_of_mem _ hmem)
    cases hproblem : fate.problem? with
    | none => simp [hproblem, hrest]
    | some e => simp [hproblem, hrest, h path fate (by simp) e hproblem]

/-- Files that are skipped have their problems listed behind the others, one for each file. -/
theorem Sorts.lists {paths : List Path} {fates : List (Path × Fate)} (hp : Lists registry start s p)
    (h : p.Sorts paths fates p') : Lists registry start s p' := by
  obtain ⟨writings, hskipped, hissues⟩ := hp.issues_eq
  rw [h.product_eq]
  refine ⟨hp.source_eq, hp.types_eq, writings ++ fates.filterMap (·.2.problem?), ?_, ?_⟩
  · rw [List.map_append, hskipped, map_target_problems h.target_eq]
  · rw [hissues, List.map_append, List.append_assoc]

theorem yields_deliver (hp : Lists registry start s p) : Filing.Yields p.deliver (Lists registry start s) := by
  refine (p.ends_deliverAll p.outputs).imp fun es result h p' hp' => ?_
  obtain ⟨fates, hfates⟩ := h.sorts p' hp'
  exact hfates.lists hp

end SourceProduct

end ShaderRecords

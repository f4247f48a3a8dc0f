/-
ShaderRecords.Proofs.Product.Targets — which sources write to the same paths.

Three targets are named after a source, and each is written through a draft beside it; these six paths are the
`SourceProduct.places` of a product. They differ from each other. The places of two sources under the same
settings are disjoint unless the sources overlap (`Source.Overlaps`): their files lie in one directory, and
they have one name, or the name of one is that of the other with `.pragmas` after it. Paths are compared as
they are read, so `A` and `./A` have one name. A description may hold sources that overlap: only the names of
its types are told apart.
-/
import Mathlib.Data.List.Nodup
import ShaderRecords.Proofs.Files.Tree
import ShaderRecords.Proofs.Product.Totality

namespace ShaderRecords

/-! ## Extensions -/

/-- What the names of targets have after the name of the source. -/
def targetExtensions : List String :=
  [".hlsl", ".pragmas.hlsl", ".fields.json"]

/-- What the names of targets and of their drafts have after the name of the source. -/
def placeExtensions : List String :=
  targetExtensions ++ targetExtensions.map (· ++ ".tmp")

/-- Whether targets of the same name are named after two names. -/
def SharesTarget (name other : String) : Prop :=
  name = other ∨ name = other ++ ".pragmas" ∨ other = name ++ ".pragmas"

/-- Texts that end in different characters are different. -/
theorem append_ne_append {a b s t : String} {c d : Char} (hs : s.toList.getLast? = some c)
    (ht : t.toList.getLast? = some d) (hcd : c ≠ d) : a ++ s ≠ b ++ t := by
  intro heq
  have hlast := congrArg (fun text : String => text.toList.getLast?) heq
  simp only [String.toList_append, List.getLast?_append, hs, ht, Option.some_or] at hlast
  exact hcd (Option.some.inj hlast)

theorem append_pragmas (name : String) : name ++ ".pragmas.hlsl" = name ++ ".pragmas" ++ ".hlsl" := by
  rw [String.append_assoc]
  rfl

/-- Two names share a target if something is named after both. -/
theorem sharesTarget_of_targetExtensions {name other e e' : String} (he : e ∈ targetExtensions)
    (he' : e' ∈ targetExtensions) (heq : name ++ e = other ++ e') : SharesTarget name other := by
  have hjson : ∀ {a b t : String}, t.toList.getLast? = some 'l' → a ++ t ≠ b ++ ".fields.json" :=
    fun h => append_ne_append h rfl (by decide)
  simp only [targetExtensions, List.mem_cons, List.not_mem_nil, or_false] at he he'
  rcases he with rfl | rfl | rfl <;> rcases he' with rfl | rfl | rfl
  · exact .inl (String.append_left_inj _ |>.mp heq)
  · exact .inr (.inl (String.append_left_inj _ |>.mp (append_pragmas other ▸ heq)))
  · exact absurd heq (hjson rfl)
  · exact .inr (.inr (String.append_left_inj _ |>.mp (append_pragmas name ▸ heq)).symm)
  · exact .inl (String.append_left_inj _ |>.mp heq)
  · exact absurd heq (hjson rfl)
  · exact absurd heq.symm (hjson rfl)
  · exact absurd heq.symm (hjson rfl)
  · exact .inl (String.append_left_inj _ |>.mp heq)

theorem getLast?_of_mem_targetExtensions {e : String} (h : e ∈ targetExtensions) :
    ∃ c, e.toList.getLast? = some c ∧ c ≠ 'p' := by
  simp only [targetExtensions, List.mem_cons, List.not_mem_nil, or_false] at h
  rcases h with rfl | rfl | rfl <;> exact ⟨_, rfl, by decide⟩

/-- Nothing but what shares a target shares a place: a draft has the name of its target, and ends otherwise
than every target. -/
theorem sharesTarget_iff {name other : String} :
    SharesTarget name other ↔ ∃ e ∈ placeExtensions, ∃ e' ∈ placeExtensions, name ++ e = other ++ e' := by
  constructor
  · rintro (rfl | rfl | rfl)
    · exact ⟨".hlsl", by decide, ".hlsl", by decide, rfl⟩
    · exact ⟨".hlsl", by decide, ".pragmas.hlsl", by decide, (append_pragmas _).symm⟩
    · exact ⟨".pragmas.hlsl", by decide, ".hlsl", by decide, append_pragmas _⟩
  · have hdraft : ∀ {a b e e' : String}, e ∈ targetExtensions → a ++ e ≠ b ++ (e' ++ ".tmp") := by
      intro a b e e' he
      obtain ⟨c, hc, hne⟩ := getLast?_of_mem_targetExtensions he
      exact append_ne_append hc (by simp [String.toList_append]) hne
    rintro ⟨e, he, e', he', heq⟩
    rcases List.mem_append.mp he with he | he <;> rcases List.mem_append.mp he' with he' | he'
    · exact sharesTarget_of_targetExtensions he he' heq
    · obtain ⟨e', -, rfl⟩ := List.mem_map.mp he'
      exact absurd heq (hdraft he)
    · obtain ⟨e, -, rfl⟩ := List.mem_map.mp he
      exact absurd heq.symm (hdraft he')
    · obtain ⟨t, ht, rfl⟩ := List.mem_map.mp he
      obtain ⟨t', ht', rfl⟩ := List.mem_map.mp he'
      rw [← String.append_assoc, ← String.append_assoc, String.append_left_inj] at heq
      exact sharesTarget_of_targetExtensions ht ht' heq

/-! ## Places of products -/

namespace SourceProduct

/-- The paths of the files that a source may give. -/
def targets (p : SourceProduct) : List Path :=
  [p.includeTarget, p.pragmaTarget, p.manifestTarget]

/-- The paths that may be written to when the files of a source are put in their places. -/
def places (p : SourceProduct) : List Path :=
  p.targets ++ p.targets.map Path.draft

variable {registry registry' : Registry} {settings : Settings} {render render' : Bool} {s s' : Source}
  {p p' : SourceProduct} {files files' : (c : FileCommand) → c.Answer}

/-- The targets of a plan are named after its source, and have no texts yet. -/
theorem targets_of_plan (h : plan registry settings render s = .ok p) :
    p.source = s ∧ p.outputs = []
      ∧ p.targets = targetExtensions.map fun e =>
        (base settings s).sibling ((Path.ofText s.path).name ++ e) := by
  obtain ⟨-, -, types, r, pragmas, -, -, rfl⟩ := plan_eq_ok_iff.mp h
  exact ⟨rfl, rfl, rfl⟩

/-- The texts of files are for targets. -/
theorem mem_targets_of_texts {hasCompanion : Bool} {output : Path × String}
    (h : output ∈ p.texts settings hasCompanion) : output.1 ∈ p.targets := by
  rw [texts_eq] at h
  simp only [List.mem_append] at h
  rcases h with (h | h) | h <;> split at h <;> simp_all [targets]

/-- The targets of what is built are named after its source, and its texts are for them. -/
theorem targets_of_result_build (h : Filing.result files (build registry settings render s) = .ok p) :
    p.targets = targetExtensions.map (fun e =>
        (base settings s).sibling ((Path.ofText s.path).name ++ e))
      ∧ ∀ output ∈ p.outputs, output.1 ∈ p.targets := by
  obtain ⟨q, outputs, hq, rfl, rfl | ⟨hasCompanion, rfl⟩⟩ := exists_outputs_of_build h
  · exact ⟨(targets_of_plan hq).2.2, by simp⟩
  · exact ⟨(targets_of_plan hq).2.2, fun _ => mem_targets_of_texts⟩

theorem places_of_result_build (h : Filing.result files (build registry settings render s) = .ok p) :
    p.places = placeExtensions.map fun e =>
      (base settings s).sibling ((Path.ofText s.path).name ++ e) := by
  rw [places, (targets_of_result_build h).1, placeExtensions, List.map_append, List.map_map, List.map_map]
  simp only [Function.comp_def, Path.draft, Path.name_sibling, Path.sibling_sibling, String.append_assoc]

end SourceProduct

/-! ## The main statement -/

/-- Whether two sources have files in the same place: they are named in one directory, and after names that
share a target. -/
def Source.Overlaps (settings : Settings) (s s' : Source) : Prop :=
  (SourceProduct.base settings s).parent = (SourceProduct.base settings s').parent
    ∧ SharesTarget (Path.ofText s.path).name (Path.ofText s'.path).name

/-- The places of two sources are disjoint exactly if the sources do not overlap; the places of one source
are different, and among them are those of all its texts. -/
theorem SourceProduct.places_disjoint_iff {registry registry' : Registry} {settings : Settings}
    {render render' : Bool} {s s' : Source} {p p' : SourceProduct} {files files' : (c : FileCommand) → c.Answer}
    (h : Filing.result files (build registry settings render s) = .ok p)
    (h' : Filing.result files' (build registry' settings render' s') = .ok p') :
    (p.places.Disjoint p'.places ↔ ¬ s.Overlaps settings s')
      ∧ p.places.Nodup
      ∧ ∀ output ∈ p.outputs, output.1 ∈ p.places ∧ output.1.draft ∈ p.places := by
  refine ⟨?_, ?_, fun output houtput => ?_⟩
  · rw [places_of_result_build h, places_of_result_build h', Source.Overlaps, sharesTarget_iff, not_and]
    constructor
    · rintro hdisjoint hparent ⟨e, he, e', he', heq⟩
      exact hdisjoint (List.mem_map_of_mem he)
        (List.mem_map.mpr ⟨e', he', Path.sibling_eq_iff.mpr ⟨hparent.symm, heq.symm⟩⟩)
    · intro hdifferent path hpath hpath'
      obtain ⟨e, he, rfl⟩ := List.mem_map.mp hpath
      obtain ⟨e', he', heq⟩ := List.mem_map.mp hpath'
      obtain ⟨hparent, hname⟩ := Path.sibling_eq_iff.mp heq
      exact hdifferent hparent.symm ⟨e, he, e', he', hname.symm⟩
  · rw [places_of_result_build h]
    refine List.Nodup.map (fun e e' heq => ?_) (by decide)
    exact String.append_right_inj _ |>.mp (Path.sibling_eq_iff.mp heq).2
  · have htarget := (targets_of_result_build h).2 output houtput
    exact ⟨List.mem_append_left _ htarget, List.mem_append_right _ (List.mem_map_of_mem htarget)⟩

/-- The directory of a source that is named below the output directory is the same for every output directory,
so whether two such sources overlap only depends on their paths. -/
theorem Source.overlaps_iff_of_relative {settings : Settings} {s s' : Source}
    (h : (Path.ofText s.path).root = "" ∧ (Path.ofText s.path).parts ≠ [])
    (h' : (Path.ofText s'.path).root = "" ∧ (Path.ofText s'.path).parts ≠ []) :
    s.Overlaps settings s' ↔ (Path.ofText s.path).parent = (Path.ofText s'.path).parent
      ∧ SharesTarget (Path.ofText s.path).name (Path.ofText s'.path).name := by
  refine and_congr_left' ?_
  simp only [SourceProduct.base, Path.join, Path.parent, h.1, h'.1, if_true, Path.mk.injEq, true_and,
    List.dropLast_append_of_ne_nil h.2, List.dropLast_append_of_ne_nil h'.2, List.append_cancel_left_eq]

/-- The source of a type with one number, whose files are named after `path`. -/
def rangeSource (path : String) : Source where
  path := path
  types := [{ name := "Light", fullName := "Light", members := [{ name := "range", type := "float" }] }]

/-- Two sources of different names have no place in common. -/
theorem SourceProduct.places_disjoint_of_two_names :
    ∃ p p', Filing.result noFiles (build ⟨[], []⟩ lightSettings true (rangeSource "Lights.cs")) = .ok p
      ∧ Filing.result noFiles (build ⟨[], []⟩ lightSettings true (rangeSource "Probes.cs")) = .ok p'
      ∧ ¬(rangeSource "Lights.cs").Overlaps lightSettings (rangeSource "Probes.cs")
      ∧ p.places.Disjoint p'.places := by
  have hbuilt : ∀ path ∈ ["Lights.cs", "Probes.cs"], ∃ p,
      Filing.result noFiles (build ⟨[], []⟩ lightSettings true (rangeSource path)) = .ok p := by
    intro path hpath
    simp only [List.mem_cons, List.not_mem_nil, or_false] at hpath
    rcases hpath with rfl | rfl <;> exact ⟨_, rfl⟩
  obtain ⟨p, hp⟩ := hbuilt "Lights.cs" (by simp)
  obtain ⟨p', hp'⟩ := hbuilt "Probes.cs" (by simp)
  have hdiffer : ¬(rangeSource "Lights.cs").Overlaps lightSettings (rangeSource "Probes.cs") := by
    rintro ⟨-, hnames⟩
    revert hnames
    unfold SharesTarget
    decide
  exact ⟨p, p', hp, hp', hdiffer, (places_disjoint_iff hp hp').1.mpr hdiffer⟩

/-- A document with two sources of one path, which it spells in two ways. -/
def respelledDocument : Value :=
  .map [("meta", .map [("version", "1.0.0")]),
    ("sources", .list [
      .map [("path", "Lights"), ("types", .list [.map [("name", "Light"),
        ("members", .list [.map [("name", "range"), ("type", "float")]])]])],
      .map [("path", "./Lights"), ("types", .list [.map [("name", "Probe"),
        ("members", .list [.map [("name", "size"), ("type", "float")]])]])]])]

/-- The document follows the schema and is described, and both sources give their types to the same file. -/
theorem SourceProduct.places_meet_of_respelled_path :
    Schema.document.accepts respelledDocument = true
      ∧ ∃ d, Description.ofValue respelledDocument = .ok d
      ∧ ∃ registry, Registry.ofDescription d = .ok registry
      ∧ ∃ s s', d.sources = [s, s'] ∧ s.path ≠ s'.path
      ∧ ∃ p p', Filing.result noFiles (build registry lightSettings true s) = .ok p
        ∧ Filing.result noFiles (build registry lightSettings true s') = .ok p'
        ∧ p.includeTarget ∈ p.outputs.map (·.1) ∧ p'.includeTarget ∈ p'.outputs.map (·.1)
        ∧ p.includeTarget = p'.includeTarget ∧ ¬p.places.Disjoint p'.places := by
  refine ⟨by decide, _, rfl, _, rfl, _, _, rfl, by decide, _, _, rfl, rfl, by decide, by decide, by decide, ?_⟩
  intro hdisjoint
  exact hdisjoint (a := ⟨"", ["out", "Lights.hlsl"]⟩) (by decide) (by decide)

end ShaderRecords

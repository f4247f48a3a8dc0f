/-
ShaderRecords.Proofs.Run.Footprint — what the work on a source touches.

The work on a source writes to its outputs, each through a draft (`Source.writes`), makes the directories that
lead to them, and looks for a companion beside them (`Source.probes`). Sources keep apart (`Source.KeepsApart`)
when what one writes is not written, passed through or looked for by another. That leaves the directories that
they make, which may be shared; `Source.LeavesClear` says when it makes no difference to the search for a
companion whether they are there yet. Under both conditions a step of a job does the same in the shared tree and
in one that only its own source is worked on in (`Independent.step_eq`).
-/
import ShaderRecords.Proofs.Files.Directories
import ShaderRecords.Proofs.Product.Targets
import ShaderRecords.Proofs.Run.Jobs

namespace ShaderRecords

/-! ## Locations of paths -/

namespace FileTree

/-- The locations that paths lead to. -/
def filesOf (t : FileTree) (paths : List Path) : Set Location :=
  {loc | ∃ p ∈ paths, t.locationOf p = loc}

/-- The locations that paths pass through. -/
def waysOf (t : FileTree) (paths : List Path) : Set Location :=
  {loc | ∃ p ∈ paths, ∃ k < p.parts.length, t.waypoint p k = loc}

variable {t u : FileTree} {d p : Path} {before rest : List String}

theorem waypoint_below (t : FileTree) (name : String) (hparts : d.parts = before ++ rest) :
    t.waypoint (d.below name) before.length = (t.startOf d).after before
      ∧ (d.below name).parts.drop before.length = rest ++ [name] := by
  simp [waypoint, Path.below, hparts, startOf]

theorem waypoint_length (t : FileTree) (p : Path) : t.waypoint p p.parts.length = t.locationOf p := by
  rw [waypoint, List.take_length]
  rfl

end FileTree

/-! ## Paths of sources -/

namespace Source

variable (registry : Registry) (settings : Settings) (dryRun : Bool)

/-- The paths of the files that the products of a source are put into. -/
def outputPaths (s : Source) : List Path :=
  match SourceProduct.plan registry settings true s with
  | .ok p => (p.texts settings false).map (·.1)
  | .error _ => []

/-- The paths that are written to: those of the files and those of their drafts; none if files are only
planned. -/
def writes (s : Source) : List Path :=
  if dryRun then [] else s.outputPaths registry settings ++ (s.outputPaths registry settings).map Path.draft

/-- The paths that are looked at beside the files: that of the companion, if there are files. -/
def probes (s : Source) : List Path :=
  match SourceProduct.plan registry settings true s with
  | .ok p => if p.hasInclude || p.hasPragmas then [p.companion] else []
  | .error _ => []

/-- The directory of the files. -/
def directory (s : Source) : Path :=
  (SourceProduct.base settings s).parent

/-- The name of the companion. -/
def companionName (s : Source) : String :=
  (Path.ofText s.path).stem ++ ".custom.hlsl"

/-- Whether what is written for one source is not written, passed through or looked for by another. -/
structure KeepsApart (t : FileTree) (s other : Source) : Prop where
  written : ∀ p ∈ s.writes registry settings dryRun, ∀ q ∈ other.writes registry settings dryRun,
    ∀ k ≤ q.parts.length, t.locationOf p ≠ t.waypoint q k
  probed : ∀ p ∈ s.writes registry settings dryRun, ∀ q ∈ other.probes registry settings,
    t.locationOf p ≠ t.locationOf q

instance (registry : Registry) (settings : Settings) (dryRun : Bool) (t : FileTree) (s other : Source) :
    Decidable (s.KeepsApart registry settings dryRun t other) :=
  decidable_of_iff (_ ∧ _) ⟨fun h => ⟨h.1, h.2⟩, fun h => ⟨h.written, h.probed⟩⟩

theorem KeepsApart.not_mem {registry : Registry} {settings : Settings} {dryRun : Bool} {t : FileTree}
    {s other : Source} (h : s.KeepsApart registry settings dryRun t other) {loc : Location}
    (hloc : loc ∈ t.filesOf (s.writes registry settings dryRun)) :
    loc ∉ t.filesOf (other.writes registry settings dryRun)
      ∧ loc ∉ t.waysOf (other.writes registry settings dryRun) := by
  obtain ⟨p, hp, rfl⟩ := hloc
  refine ⟨?_, ?_⟩
  · rintro ⟨q, hq, hloc⟩
    exact h.written p hp q hq q.parts.length le_rfl (by rw [t.waypoint_length, hloc])
  · rintro ⟨q, hq, k, hk, hloc⟩
    exact h.written p hp q hq k hk.le hloc.symm

/-- Whether it makes no difference to the search for the companion of one source that another has its
directories made: where the way to the companion comes to a directory that is missing and that is made for the
other, it goes on behind it, without two points and with names that are not too long. -/
def LeavesClear (t : FileTree) (s other : Source) : Prop :=
  ∀ p ∈ s.writes registry settings dryRun, ∀ m < p.parts.length, t.find? (t.waypoint p m) = none →
    ∀ q ∈ other.probes registry settings, ∀ k ≤ q.parts.length, t.waypoint q k = t.waypoint p m →
      q.parts.drop k ≠ []
        ∧ ∀ part ∈ q.parts.drop k, part ≠ ".." ∧ part.utf8ByteSize ≤ FileTree.maxNameBytes

instance (registry : Registry) (settings : Settings) (dryRun : Bool) (t : FileTree) (s other : Source) :
    Decidable (s.LeavesClear registry settings dryRun t other) :=
  inferInstanceAs (Decidable (∀ p ∈ s.writes registry settings dryRun, ∀ m < p.parts.length,
    t.find? (t.waypoint p m) = none → ∀ q ∈ other.probes registry settings, ∀ k ≤ q.parts.length,
      t.waypoint q k = t.waypoint p m → q.parts.drop k ≠ []
        ∧ ∀ part ∈ q.parts.drop k, part ≠ ".." ∧ part.utf8ByteSize ≤ FileTree.maxNameBytes))

variable {registry settings dryRun} {s : Source} {p : SourceProduct}

theorem mem_writes {path : Path} : path ∈ s.writes registry settings dryRun ↔ dryRun = false
    ∧ (path ∈ s.outputPaths registry settings ∨ ∃ q ∈ s.outputPaths registry settings, q.draft = path) := by
  cases dryRun <;> simp [writes]

theorem mem_probes (hplan : SourceProduct.plan registry settings true s = .ok p)
    (hprobes : (p.hasInclude || p.hasPragmas) = true) : p.companion ∈ s.probes registry settings := by
  rw [probes, hplan]
  simp only [hprobes, if_true, List.mem_singleton]

/-- The texts are for the same files whether there is a companion or not. -/
theorem map_texts_eq (hasCompanion : Bool) :
    (p.texts settings hasCompanion).map (·.1) = (p.texts settings false).map (·.1) := by
  unfold SourceProduct.texts
  by_cases hinclude : p.hasInclude = true
  <;> by_cases hpragmas : p.hasPragmas = true
  <;> by_cases hmanifest : (settings.emitManifest && !p.source.types.isEmpty) = true
  <;> simp only [hinclude, hpragmas, hmanifest, if_true, if_false, Bool.false_eq_true, List.map_append,
    List.map_cons, List.map_nil]

theorem build_of_plan_error {b : Breakdown} (h : SourceProduct.plan registry settings true s = .error b) :
    SourceProduct.build registry settings true s = throw b := by
  rw [SourceProduct.build, h]
  rfl

/-- A source is built by looking for its companion. -/
theorem build_of_plan_ok (h : SourceProduct.plan registry settings true s = .ok p) :
    SourceProduct.build registry settings true s =
      if p.hasInclude || p.hasPragmas then do
        let hasCompanion ← Filing.isThere p.companion
        return { p with outputs := p.texts settings hasCompanion }
      else return { p with outputs := p.texts settings false } := by
  rw [SourceProduct.build, h]
  rfl

/-- There are files exactly if their companion is looked for. -/
theorem outputPaths_ne_nil_iff (h : SourceProduct.plan registry settings true s = .ok p) :
    s.outputPaths registry settings ≠ [] ↔ (p.hasInclude || p.hasPragmas) = true := by
  unfold outputPaths SourceProduct.texts
  rw [h]
  have hmanifest : (settings.emitManifest && !p.source.types.isEmpty) = true → p.hasInclude = true := by
    intro hmanifest
    rw [SourceProduct.hasInclude, ((Bool.and_eq_true _ _).mp hmanifest).2, Bool.true_or]
  by_cases hinclude : p.hasInclude = true
  <;> by_cases hpragmas : p.hasPragmas = true
  <;> by_cases hmanifest' : (settings.emitManifest && !p.source.types.isEmpty) = true
  <;> simp_all

theorem exists_plan_of_mem_outputPaths {path : Path} (h : path ∈ s.outputPaths registry settings) :
    ∃ p, SourceProduct.plan registry settings true s = .ok p ∧ (p.hasInclude || p.hasPragmas) = true := by
  cases hplan : SourceProduct.plan registry settings true s with
  | error b => simp [outputPaths, hplan] at h
  | ok p => exact ⟨p, rfl, (outputPaths_ne_nil_iff hplan).mp (List.ne_nil_of_mem h)⟩

/-- A source that is built has a text for each of its files. -/
theorem outputs_of_build {t t' : FileTree}
    (h : (SourceProduct.build registry settings true s).runOn t = (.ok p, t')) :
    p.outputs.map (·.1) = s.outputPaths registry settings := by
  unfold outputPaths
  cases hplan : SourceProduct.plan registry settings true s with
  | error b =>
    rw [build_of_plan_error hplan] at h
    cases (Prod.mk.inj h).1
  | ok planned =>
    rw [build_of_plan_ok hplan] at h
    split at h
    · rw [Filing.runOn_bind] at h
      split at h
      · obtain ⟨hp, -⟩ := Prod.mk.inj h
        obtain rfl := Except.ok.inj hp
        exact map_texts_eq _
      · cases (Prod.mk.inj h).1
    · obtain ⟨hp, -⟩ := Prod.mk.inj h
      obtain rfl := Except.ok.inj hp
      rfl

/-- Files are in the directory of their source and named after it. -/
theorem exists_below_of_mem_outputPaths {path : Path} (h : path ∈ s.outputPaths registry settings) :
    ∃ extension, 2 < extension.length
      ∧ path = (s.directory settings).below ((Path.ofText s.path).name ++ extension) := by
  unfold outputPaths at h
  cases hplan : SourceProduct.plan registry settings true s with
  | error b => simp [hplan] at h
  | ok p =>
    simp only [hplan] at h
    obtain ⟨output, houtput, rfl⟩ := List.mem_map.mp h
    have htarget := SourceProduct.mem_targets_of_texts houtput
    rw [(SourceProduct.targets_of_plan hplan).2.2] at htarget
    obtain ⟨e, he, heq⟩ := List.mem_map.mp htarget
    refine ⟨e, ?_, heq.symm⟩
    simp only [targetExtensions, List.mem_cons, List.not_mem_nil, or_false] at he
    rcases he with rfl | rfl | rfl <;> decide

/-- So is the companion. -/
theorem companion_eq (h : SourceProduct.plan registry settings true s = .ok p) :
    p.companion = (s.directory settings).below s.companionName := by
  obtain ⟨hsource, -, htargets⟩ := SourceProduct.targets_of_plan h
  have hinclude : p.includeTarget
      = (SourceProduct.base settings s).sibling ((Path.ofText s.path).name ++ ".hlsl") :=
    (List.cons.inj htargets).1
  rw [SourceProduct.companion, hinclude, Path.sibling_sibling, hsource]
  rfl

end Source

/-! ## Independent sources -/

/-- Whether the work on each of some sources is apart from the work on the others. -/
structure Independent (registry : Registry) (settings : Settings) (dryRun : Bool) (sources : List Source)
    (t : FileTree) : Prop where
  wellFormed : t.WellFormed
  apart : sources.Pairwise fun s other =>
    s.KeepsApart registry settings dryRun t other ∧ other.KeepsApart registry settings dryRun t s
  clear : sources.Pairwise fun s other =>
    s.LeavesClear registry settings dryRun t other ∧ other.LeavesClear registry settings dryRun t s

namespace Independent

variable {registry : Registry} {settings : Settings} {dryRun : Bool} {sources : List Source} {t cur : FileTree}
  {i j : Nat} {s other : Source}

theorem of_pairwise {r : Source → Source → Prop} (h : sources.Pairwise fun s other => r s other ∧ r other s)
    (hij : i ≠ j) (hs : sources[i]? = some s) (hother : sources[j]? = some other) : r s other := by
  obtain ⟨hi, rfl⟩ := List.getElem?_eq_some_iff.mp hs
  obtain ⟨hj, rfl⟩ := List.getElem?_eq_some_iff.mp hother
  rcases Nat.lt_or_gt_of_ne hij with hlt | hgt
  · exact (List.pairwise_iff_getElem.mp h i j hi hj hlt).1
  · exact (List.pairwise_iff_getElem.mp h j i hj hi hgt).2

theorem keepsApart (h : Independent registry settings dryRun sources t) (hij : i ≠ j)
    (hs : sources[i]? = some s) (hother : sources[j]? = some other) :
    s.KeepsApart registry settings dryRun t other :=
  of_pairwise h.apart hij hs hother

theorem leavesClear (h : Independent registry settings dryRun sources t) (hij : i ≠ j)
    (hs : sources[i]? = some s) (hother : sources[j]? = some other) :
    s.LeavesClear registry settings dryRun t other :=
  of_pairwise h.clear hij hs hother

/-- The locations that the work on the other sources edits files at. -/
def otherFiles (registry : Registry) (settings : Settings) (dryRun : Bool) (sources : List Source)
    (t : FileTree) (j : Nat) : Set Location :=
  {loc | ∃ i s, i ≠ j ∧ sources[i]? = some s ∧ loc ∈ t.filesOf (s.writes registry settings dryRun)}

/-- The locations at which nothing is yet and the work on the other sources makes directories. -/
def otherDirs (registry : Registry) (settings : Settings) (dryRun : Bool) (sources : List Source)
    (t : FileTree) (j : Nat) : Set Location :=
  {loc | t.find? loc = none ∧ ∃ i s, i ≠ j ∧ sources[i]? = some s
    ∧ loc ∈ t.waysOf (s.writes registry settings dryRun)}

/-- The locations of the work on one source and on the others. -/
def division (h : Independent registry settings dryRun sources t) (hs : sources[j]? = some s) : Division where
  files := t.filesOf (s.writes registry settings dryRun)
  dirs := t.waysOf (s.writes registry settings dryRun)
  otherFiles := otherFiles registry settings dryRun sources t j
  otherDirs := otherDirs registry settings dryRun sources t j
  apart loc hloc := by
    refine ⟨?_, ?_⟩
    · rintro ⟨i, other, hij, hother, hmem⟩
      exact ((h.keepsApart hij.symm hs hother).not_mem hloc).1 hmem
    · rintro ⟨-, i, other, hij, hother, hmem⟩
      exact ((h.keepsApart hij.symm hs hother).not_mem hloc).2 hmem

variable {p : SourceProduct} {v u : FileTree}

/-- The way to the directory of a source with files is clear of the work on the others. -/
theorem clearTo (h : Independent registry settings dryRun sources t) (hs : sources[j]? = some s)
    (hhere : cur.here = t.here) (hplan : SourceProduct.plan registry settings true s = .ok p)
    (hprobes : (p.hasInclude || p.hasPragmas) = true) :
    FileTree.ClearTo (h.division hs) cur (s.directory settings) := by
  unfold FileTree.ClearTo
  rw [FileTree.startOf_congr hhere]
  refine ⟨fun before rest hparts => ?_, fun before rest hparts => ?_⟩
  · rintro ⟨i, other, hij, hother, q, hq, hloc⟩
    obtain ⟨path, hpath⟩ := List.exists_mem_of_ne_nil _ ((Source.outputPaths_ne_nil_iff hplan).mpr hprobes)
    have hwrites : path ∈ s.writes registry settings dryRun :=
      Source.mem_writes.mpr ⟨(Source.mem_writes.mp hq).1, .inl hpath⟩
    obtain ⟨_, -, rfl⟩ := Source.exists_below_of_mem_outputPaths hpath
    refine (h.keepsApart hij hother hs).written q hq _ hwrites before.length ?_ ?_
    · simp [Path.below, hparts]
    · rw [(t.waypoint_below _ hparts).1, hloc]
  · rintro ⟨hnone, i, other, hij, hother, q, hq, m, hm, hloc⟩ part hpart
    obtain ⟨hway, hdrop⟩ := t.waypoint_below s.companionName hparts
    refine (h.leavesClear hij hother hs q hq m hm (hloc ▸ hnone) p.companion
      (Source.mem_probes hplan hprobes) before.length ?_ ?_).2 part ?_
    · simp [Source.companion_eq hplan, Path.below, hparts]
    · rw [Source.companion_eq hplan, hway, hloc]
    · rw [Source.companion_eq hplan, hdrop]
      exact List.mem_append_left _ hpart

/-- All directories on the way to a file may be made. -/
theorem mayMake (h : Independent registry settings dryRun sources t) (hs : sources[j]? = some s)
    (hhere : cur.here = t.here) {path : Path} (hpath : path ∈ s.writes registry settings dryRun)
    {d : Path} {name : String} (hd : path = d.below name) : MayMake (h.division hs) cur d := by
  intro before rest hparts
  rw [FileTree.startOf_congr hhere]
  refine ⟨path, hpath, before.length, ?_, ?_⟩
  · simp [hd, Path.below, hparts]
  · rw [hd, (t.waypoint_below name hparts).1]

/-- The same is found at the place of the companion, whatever has been done for the others. -/
theorem node_companion_eq (h : Independent registry settings dryRun sources t) (hs : sources[j]? = some s)
    (hhere : cur.here = t.here) (hplan : SourceProduct.plan registry settings true s = .ok p)
    (hprobes : (p.hasInclude || p.hasPragmas) = true) (hshares : FileTree.Shares (h.division hs) cur v u) :
    v.node p.companion = u.node p.companion := by
  have hcompanion := Source.companion_eq hplan
  have hmem := Source.mem_probes hplan hprobes
  have hhere' : u.here = t.here := (hshares.others.here_eq.symm.trans hshares.own.here_eq).trans hhere
  have hclear := h.clearTo hs hhere' hplan hprobes
  have hups : s.companionName ≠ ".." := append_ne_ups (by decide)
  have hnot : u.locationOf p.companion ∉ (h.division hs).otherFiles := by
    rintro ⟨i, other, hij, hother, q, hq, hloc⟩
    rw [FileTree.locationOf_congr hhere'] at hloc
    exact (h.keepsApart hij hother hs).probed q hq _ hmem hloc
  have hnot' : u.locationOf p.companion ∉ (h.division hs).otherDirs := by
    rintro ⟨hnone, i, other, hij, hother, q, hq, m, hm, hloc⟩
    rw [FileTree.locationOf_congr hhere'] at hloc hnone
    refine (h.leavesClear hij hother hs q hq m hm (hloc ▸ hnone) _ hmem p.companion.parts.length le_rfl
      ?_).1 ?_
    · rw [t.waypoint_length, hloc]
    · rw [List.drop_length]
  rw [hcompanion] at hnot hnot' ⊢
  rcases hshares.others.node_below_eq_or hshares.alone hclear hups hnot hnot' with
    heq | ⟨hlong, ⟨before, rest, hparts, hdir⟩, -⟩
  · exact heq
  · -- A name that is too long is not behind a directory that others make.
    obtain ⟨hnone, i, other, hij, hother, q, hq, m, hm, hloc⟩ := hdir
    obtain ⟨hway, hdrop⟩ := t.waypoint_below s.companionName hparts
    rw [FileTree.startOf_congr hhere'] at hloc hnone
    have hshort := (h.leavesClear hij hother hs q hq m hm (hloc ▸ hnone) _ hmem before.length
      (by simp [hcompanion, Path.below, hparts]) (by rw [hcompanion, hway, hloc])).2 s.companionName
      (by rw [hcompanion, hdrop]; simp)
    exact absurd hlong (Nat.not_lt.mpr hshort.2)

/-! ## Steps of jobs -/

/-- A source is built in tandem. -/
theorem tandem_build (h : Independent registry settings dryRun sources t) (hs : sources[j]? = some s)
    (hhere : cur.here = t.here) :
    Tandem (FileTree.Shares (h.division hs) cur) (SourceProduct.build registry settings true s)
      (FileTree.Shares (h.division hs) cur) (FileTree.Shares (h.division hs) cur) := by
  cases hplan : SourceProduct.plan registry settings true s with
  | error b =>
    rw [Source.build_of_plan_error hplan]
    exact tandem_throw b
  | ok p =>
    rw [Source.build_of_plan_ok hplan]
    split
    next hprobes =>
      refine Tandem.bind ?_ fun hasCompanion => tandem_pure _
      exact tandem_isThere (alike_status fun _ _ hshares => h.node_companion_eq hs hhere hplan hprobes hshares)
    next => exact tandem_pure _

/-- A file of a source is put in place in tandem. -/
theorem tandem_deliver_of_mem_outputPaths (h : Independent registry settings dryRun sources t)
    (hs : sources[j]? = some s) (hhere : cur.here = t.here) (hdry : dryRun = false) {path : Path}
    (hpath : path ∈ s.outputPaths registry settings) (text : String) :
    Tandem (FileTree.Shares (h.division hs) cur) (Fate.deliver path text)
      (FileTree.Shares (h.division hs) cur) (FileTree.Shares (h.division hs) cur) := by
  obtain ⟨p, hplan, hprobes⟩ := Source.exists_plan_of_mem_outputPaths hpath
  have hwrites : path ∈ s.writes registry settings dryRun := Source.mem_writes.mpr ⟨hdry, .inl hpath⟩
  have hdraft : path.draft ∈ s.writes registry settings dryRun :=
    Source.mem_writes.mpr ⟨hdry, .inr ⟨path, hpath, rfl⟩⟩
  obtain ⟨_, hextension, rfl⟩ := Source.exists_below_of_mem_outputPaths hpath
  rw [Path.draft, Path.sibling_eq_below, Path.parent_below, Path.name_below] at hdraft
  exact tandem_deliver_below (h.clearTo hs hhere hplan hprobes) (h.mayMake hs hhere hwrites rfl)
    (append_ne_ups hextension)
    ⟨_, hwrites, (FileTree.locationOf_congr hhere _).symm⟩
    ⟨_, hdraft, (FileTree.locationOf_congr hhere _).symm⟩ text

end Independent

/-- Whether a job is the work on a source. -/
def Job.IsOf (registry : Registry) (settings : Settings) (dryRun : Bool) (s : Source) : Job → Prop
  | .building s' => s' = s
  | .delivering _ rest => ∀ output ∈ rest, dryRun = false ∧ output.1 ∈ s.outputPaths registry settings
  | .broken _ => True

/-- A step of the work on a source does the same in the shared tree and in its own. -/
theorem Independent.step_eq {registry : Registry} {settings : Settings} {dryRun : Bool} {sources : List Source}
    {t cur v u : FileTree} {j : Nat} {s : Source} {job : Job}
    (h : Independent registry settings dryRun sources t) (hs : sources[j]? = some s) (hhere : cur.here = t.here)
    (hjob : job.IsOf registry settings dryRun s) (hshares : FileTree.Shares (h.division hs) cur v u) :
    ∃ job' v' u', Job.step registry settings dryRun (job, v) = (job', v')
      ∧ Job.step registry settings dryRun (job, u) = (job', u')
      ∧ job'.IsOf registry settings dryRun s ∧ FileTree.Shares (h.division hs) cur v' u' := by
  cases job with
  | broken b => exact ⟨_, v, u, rfl, rfl, trivial, hshares⟩
  | building source =>
    obtain rfl : source = s := hjob
    obtain ⟨result, v', u', hv, hu, hresult⟩ := h.tandem_build hs hhere v u hshares
    rw [Job.step, Job.step, hv, hu]
    cases result with
    | error b => exact ⟨_, v', u', rfl, rfl, trivial, hresult⟩
    | ok p =>
      refine ⟨_, v', u', rfl, rfl, fun output houtput => ?_, hresult⟩
      cases dryRun with
      | true => cases houtput
      | false => exact ⟨rfl, Source.outputs_of_build hv ▸ List.mem_map_of_mem houtput⟩
  | delivering p rest =>
    cases rest with
    | nil => exact ⟨_, v, u, rfl, rfl, hjob, hshares⟩
    | cons output rest =>
      obtain ⟨⟨hdry, hpath⟩, hrest⟩ := List.forall_mem_cons.mp hjob
      obtain ⟨path, text⟩ := output
      obtain ⟨result, v', u', hv, hu, hresult⟩ :=
        h.tandem_deliver_of_mem_outputPaths hs hhere hdry hpath text v u hshares
      rw [Job.step, Job.step, hv, hu]
      cases result with
      | error b => exact ⟨_, v', u', rfl, rfl, trivial, hresult⟩
      | ok fate => exact ⟨_, v', u', rfl, rfl, hrest, hresult⟩

end ShaderRecords

/-
ShaderRecords.Proofs.Run.Scheduling — what a run leaves does not depend on its schedule.

After any schedule, each job of a pool is as far as it is alone after as many steps as the schedule gives it
(`Tracks`): a step keeps that (`Tracks.advance`), since the job that takes it does the same in the shared tree
and alone, and since for the other jobs it is one more piece of the others' work. Once all jobs have ended, more
steps change nothing, so two schedules that get there leave the same jobs, and trees with the same in them
(`Tracks.eq_of_ended`). One of them works on one source after another, which gives `Independent.run_eq`.

That sources keep apart is not enough for this, since a directory that is made for one of them can show in the
search for the companion of another; `ShaderRecords.Proofs.Run.Entanglement` has examples.
-/
import ShaderRecords.Proofs.Run.Footprint

namespace ShaderRecords

/-! ## Jobs alone -/

section

variable (registry : Registry) (settings : Settings) (dryRun : Bool)

/-- A job after some steps that nobody else interferes with, and its tree. -/
def Job.alone (t : FileTree) (s : Source) (n : Nat) : Job × FileTree :=
  (Job.step registry settings dryRun)^[n] (.building s, t)

theorem Job.alone_succ (t : FileTree) (s : Source) (n : Nat) :
    Job.alone registry settings dryRun t s (n + 1)
      = Job.step registry settings dryRun (Job.alone registry settings dryRun t s n) :=
  Function.iterate_succ_apply' _ _ _

variable {registry settings dryRun}

/-- A job that has ended stays as it is. -/
theorem Job.alone_of_le {t : FileTree} {s : Source} {m n : Nat} (hle : m ≤ n)
    (hended : (Job.alone registry settings dryRun t s m).1.outcome? ≠ none) :
    Job.alone registry settings dryRun t s n = Job.alone registry settings dryRun t s m := by
  obtain ⟨k, rfl⟩ := Nat.exists_eq_add_of_le hle
  obtain ⟨outcome, houtcome⟩ := Option.ne_none_iff_exists'.mp hended
  rw [Nat.add_comm, alone, Function.iterate_add_apply]
  exact iterate_step_of_outcome? registry settings dryRun houtcome k

/-- A job ends in one way only. -/
theorem Job.alone_eq_of_ended {t : FileTree} {s : Source} {m n : Nat}
    (hm : (Job.alone registry settings dryRun t s m).1.outcome? ≠ none)
    (hn : (Job.alone registry settings dryRun t s n).1.outcome? ≠ none) :
    Job.alone registry settings dryRun t s m = Job.alone registry settings dryRun t s n := by
  rcases Nat.le_total m n with hle | hle
  · exact (alone_of_le hle hm).symm
  · exact alone_of_le hle hn

end

/-! ## Pools that keep track of their jobs -/

/-- The locations that the work on some sources edits files at. -/
def workFiles (registry : Registry) (settings : Settings) (dryRun : Bool) (sources : List Source)
    (t : FileTree) : Set Location :=
  {loc | ∃ s ∈ sources, loc ∈ t.filesOf (s.writes registry settings dryRun)}

/-- The locations that the work on some sources makes directories at. -/
def workDirs (registry : Registry) (settings : Settings) (dryRun : Bool) (sources : List Source)
    (t : FileTree) : Set Location :=
  {loc | ∃ s ∈ sources, loc ∈ t.waysOf (s.writes registry settings dryRun)}

/-- Whether a job of a pool is as far as the work on a source alone, and the tree of the pool has grown out of
the job's own by the work on the other sources. -/
structure InStep (registry : Registry) (settings : Settings) (dryRun : Bool) (sources : List Source)
    (t : FileTree) (j : Nat) (s : Source) (alone : Job × FileTree) (pool : Pool) : Prop where
  job_eq : pool.jobs[j]? = some alone.1
  isOf : alone.1.IsOf registry settings dryRun s
  wellFormed : alone.2.WellFormed
  others : alone.2.Grows (Independent.otherFiles registry settings dryRun sources t j)
    (Independent.otherDirs registry settings dryRun sources t j) pool.tree

/-- Whether the jobs of a pool are as far as they are alone after the numbers of steps `steps`, and its tree has
grown by the work on the sources. -/
structure Tracks (registry : Registry) (settings : Settings) (dryRun : Bool) (sources : List Source)
    (t : FileTree) (steps : Nat → Nat) (pool : Pool) : Prop where
  length_eq : pool.jobs.length = sources.length
  inStep : ∀ j s, sources[j]? = some s → InStep registry settings dryRun sources t j s
    (Job.alone registry settings dryRun t s (steps j)) pool
  grows : t.Grows (workFiles registry settings dryRun sources t) (workDirs registry settings dryRun sources t)
    pool.tree
  made : ∀ loc mode, pool.tree.find? loc = some (.directory mode) → t.find? loc = some (.directory mode)
    ∨ ∃ j s, sources[j]? = some s
      ∧ (Job.alone registry settings dryRun t s (steps j)).2.find? loc = some (.directory mode)

namespace Tracks

variable {registry : Registry} {settings : Settings} {dryRun : Bool} {sources : List Source} {t : FileTree}
  {steps : Nat → Nat} {pool : Pool}

theorem start (h : t.WellFormed) :
    Tracks registry settings dryRun sources t (fun _ => 0) (Pool.start sources t) where
  length_eq := List.length_map _
  inStep j s hs := ⟨by rw [Pool.start, List.getElem?_map, hs]; rfl, rfl, h, h.grows _ _⟩
  grows := h.grows _ _
  made _ _ hmode := .inl hmode

/-- What one job does is the others' work for each other job. -/
theorem others_of_grows (h : Independent registry settings dryRun sources t)
    (htracks : Tracks registry settings dryRun sources t steps pool) {i j : Nat} {s other : Source} (hij : i ≠ j)
    (hs : sources[i]? = some s) (hother : sources[j]? = some other) {t' : FileTree}
    (hgrows : pool.tree.Grows (t.filesOf (s.writes registry settings dryRun))
      (t.waysOf (s.writes registry settings dryRun)) t') :
    pool.tree.Grows (Independent.otherFiles registry settings dryRun sources t j)
      (Independent.otherDirs registry settings dryRun sources t j) t' := by
  refine hgrows.mono (fun loc hloc => ⟨i, s, hij, hs, hloc⟩) fun loc hloc hnone hnot => ?_
  refine ⟨?_, i, s, hij, hs, hloc⟩
  -- What the job makes a directory at is not one of the other job's files, so nothing has been there before.
  have hunworked : loc ∉ workFiles registry settings dryRun sources t := by
    rintro ⟨worker, hworker, hmem⟩
    obtain ⟨k, hk⟩ := List.mem_iff_getElem?.mp hworker
    by_cases hkj : k = j
    · subst hkj
      obtain rfl := Option.some.inj (hk.symm.trans hother)
      exact ((h.keepsApart hij.symm hother hs).not_mem hmem).2 hloc
    · exact hnot ⟨k, worker, hkj, hk, hmem⟩
  rcases htracks.grows.find?_eq_or loc hunworked with heq | ⟨-, hnone, -⟩
  · exact heq.symm.trans hnone
  · exact hnone

/-- A step of a job keeps the directories of its own tree. -/
theorem alone_succ_directory (h : Independent registry settings dryRun sources t)
    (htracks : Tracks registry settings dryRun sources t steps pool) {i : Nat} {s : Source}
    (hs : sources[i]? = some s) {loc : Location} {mode : Nat}
    (hmode : (Job.alone registry settings dryRun t s (steps i)).2.find? loc = some (.directory mode)) :
    (Job.alone registry settings dryRun t s (steps i + 1)).2.find? loc = some (.directory mode) := by
  obtain ⟨-, hisOf, hwell, hothers⟩ := htracks.inStep i s hs
  obtain ⟨job', v', u', hv, hu', -, hshares⟩ :=
    h.step_eq hs (hothers.here_eq.symm.trans htracks.grows.here_eq) hisOf
      ⟨hwell, hwell.grows _ _, hwell.grows _ _, fun _ => .inl rfl⟩
  rw [Job.alone_succ, hv]
  exact hshares.own.directory loc mode hmode

theorem congr {steps' : Nat → Nat} (htracks : Tracks registry settings dryRun sources t steps pool)
    (hsteps : ∀ (j : Nat) (s : Source), sources[j]? = some s → steps j = steps' j) :
    Tracks registry settings dryRun sources t steps' pool where
  length_eq := htracks.length_eq
  inStep j s hs := hsteps j s hs ▸ htracks.inStep j s hs
  grows := htracks.grows
  made loc mode hmode := (htracks.made loc mode hmode).imp_right fun ⟨j, s, hs, halone⟩ =>
    ⟨j, s, hs, hsteps j s hs ▸ halone⟩

/-- After a step of one job, the directories of the shared tree that were not there at the start are in the
trees of jobs, counting the step. -/
theorem made_of_shares (h : Independent registry settings dryRun sources t)
    (htracks : Tracks registry settings dryRun sources t steps pool) {i : Nat} {s : Source}
    (hs : sources[i]? = some s) {v : FileTree}
    (hshares : FileTree.Shares (h.division hs) pool.tree v
      (Job.alone registry settings dryRun t s (steps i + 1)).2) {loc : Location} {mode : Nat}
    (hmode : v.find? loc = some (.directory mode)) : t.find? loc = some (.directory mode)
      ∨ ∃ j other, sources[j]? = some other
        ∧ (Job.alone registry settings dryRun t other (if j = i then steps j + 1 else steps j)).2.find? loc
          = some (.directory mode) := by
  have hown : (Job.alone registry settings dryRun t s (steps i + 1)).2.find? loc = some (.directory mode) →
      ∃ j other, sources[j]? = some other
        ∧ (Job.alone registry settings dryRun t other (if j = i then steps j + 1 else steps j)).2.find? loc
          = some (.directory mode) := fun halone => ⟨i, s, hs, by rwa [if_pos rfl]⟩
  rcases hshares.made loc with heq | heq
  · rcases htracks.made loc mode (heq.symm.trans hmode) with hthere | ⟨j, other, hother, hthere⟩
    · exact .inl hthere
    · by_cases hji : j = i
      · subst hji
        obtain rfl := Option.some.inj (hs.symm.trans hother)
        exact .inr (hown (htracks.alone_succ_directory h hs hthere))
      · exact .inr ⟨j, other, hother, by rwa [if_neg hji]⟩
  · exact .inr (hown (heq.symm.trans hmode))

theorem advance_of_none (htracks : Tracks registry settings dryRun sources t steps pool) {i : Nat}
    (hi : sources[i]? = none) : pool.advance registry settings dryRun i = pool := by
  have hjob : pool.jobs[i]? = none := by
    rw [List.getElem?_eq_none_iff] at hi ⊢
    exact htracks.length_eq ▸ hi
  rw [Pool.advance, hjob]

/-- A step of one job keeps track of all. -/
theorem advance (h : Independent registry settings dryRun sources t)
    (htracks : Tracks registry settings dryRun sources t steps pool) (i : Nat) :
    Tracks registry settings dryRun sources t (fun j => if j = i then steps j + 1 else steps j)
      (pool.advance registry settings dryRun i) := by
  cases hs : sources[i]? with
  | none =>
    rw [htracks.advance_of_none hs]
    refine htracks.congr fun j s hj => (if_neg ?_).symm
    rintro rfl
    rw [hs] at hj
    cases hj
  | some s =>
    have hjob := htracks.inStep i s hs
    obtain ⟨job', v, u, hv, hu, hisOf, hshares⟩ := h.step_eq hs htracks.grows.here_eq hjob.isOf
      ⟨hjob.wellFormed, hjob.others, htracks.grows.wellFormed.grows _ _, fun _ => .inl rfl⟩
    have hpool : pool.advance registry settings dryRun i = ⟨pool.jobs.set i job', v⟩ := by
      rw [Pool.advance, hjob.job_eq]
      dsimp only
      rw [hv]
    have halone : Job.alone registry settings dryRun t s (steps i + 1) = (job', u) := by
      rw [Job.alone_succ, ← hu]
    rw [hpool]
    refine ⟨?_, fun j other hother => ?_, ?_, fun loc mode hmode => ?_⟩
    · rw [List.length_set, htracks.length_eq]
    · by_cases hji : j = i
      · subst hji
        obtain rfl := Option.some.inj (hs.symm.trans hother)
        rw [if_pos rfl, halone]
        have hj : j < pool.jobs.length := htracks.length_eq ▸ (List.getElem?_eq_some_iff.mp hs).1
        exact ⟨List.getElem?_set_self hj, hisOf, hshares.alone, hshares.others⟩
      · rw [if_neg hji]
        obtain ⟨hother', hisOf', hwell, hothers⟩ := htracks.inStep j other hother
        refine ⟨(List.getElem?_set_ne (Ne.symm hji)).trans hother', hisOf', hwell, ?_⟩
        exact hothers.trans (htracks.others_of_grows h (Ne.symm hji) hs hother hshares.own)
    · have hmem := List.mem_of_getElem? hs
      exact htracks.grows.trans
        (hshares.own.mono (fun loc hloc => ⟨s, hmem, hloc⟩) fun loc hloc _ _ => ⟨s, hmem, hloc⟩)
    · exact htracks.made_of_shares h hs (halone ▸ hshares) hmode

/-- After any schedule, every job is as far as it is alone after as many steps as it has been given. -/
theorem run (h : Independent registry settings dryRun sources t) (schedule : List Nat) :
    Tracks registry settings dryRun sources t (fun j => schedule.count j)
      (Pool.run registry settings dryRun (Pool.start sources t) schedule) := by
  induction schedule using List.reverseRecOn with
  | nil => exact start h.wellFormed
  | append_singleton schedule i ih =>
    rw [Pool.run_append]
    refine (ih.advance h i).congr fun j s _ => ?_
    rw [List.count_append, List.count_singleton]
    by_cases hji : j = i
    · simp [hji]
    · simp [hji, Ne.symm hji]

/-! ## Pools that have ended -/

/-- A file of a source is in the shared tree as the work on the source alone has left it. -/
theorem find?_of_mem_filesOf (h : Independent registry settings dryRun sources t)
    (htracks : Tracks registry settings dryRun sources t steps pool) {j : Nat} {s : Source}
    (hs : sources[j]? = some s) {loc : Location} (hloc : loc ∈ t.filesOf (s.writes registry settings dryRun)) :
    pool.tree.find? loc = (Job.alone registry settings dryRun t s (steps j)).2.find? loc := by
  obtain ⟨hnot, hnot'⟩ := (h.division hs).apart loc hloc
  exact ((htracks.inStep j s hs).others.find?_eq_or loc hnot).resolve_right fun ⟨hmem, _⟩ => hnot' hmem

variable {steps' : Nat → Nat} {pool' : Pool}

/-- A directory that is made is made in every pool whose jobs are as far. -/
theorem directory_of_alone_eq (htracks : Tracks registry settings dryRun sources t steps pool)
    (htracks' : Tracks registry settings dryRun sources t steps' pool')
    (halone : ∀ j s, sources[j]? = some s → Job.alone registry settings dryRun t s (steps j)
      = Job.alone registry settings dryRun t s (steps' j)) {loc : Location} {mode : Nat}
    (hmade : pool.tree.find? loc = some (.directory mode)) :
    pool'.tree.find? loc = some (.directory mode) := by
  rcases htracks.made loc mode hmade with hthere | ⟨j, s, hs, hthere⟩
  · exact htracks'.grows.directory loc mode hthere
  · rw [halone j s hs] at hthere
    exact (htracks'.inStep j s hs).others.directory loc mode hthere

/-- Pools whose jobs have all ended have the same jobs, and the same at every location. -/
theorem eq_of_ended (h : Independent registry settings dryRun sources t)
    (htracks : Tracks registry settings dryRun sources t steps pool)
    (htracks' : Tracks registry settings dryRun sources t steps' pool')
    (hended : ∀ job ∈ pool.jobs, job.outcome? ≠ none) (hended' : ∀ job ∈ pool'.jobs, job.outcome? ≠ none) :
    pool.jobs = pool'.jobs ∧ ∀ loc, pool.tree.find? loc = pool'.tree.find? loc := by
  have halone : ∀ j s, sources[j]? = some s → Job.alone registry settings dryRun t s (steps j)
      = Job.alone registry settings dryRun t s (steps' j) := fun j s hs =>
    Job.alone_eq_of_ended (hended _ (List.mem_of_getElem? (htracks.inStep j s hs).job_eq))
      (hended' _ (List.mem_of_getElem? (htracks'.inStep j s hs).job_eq))
  refine ⟨List.ext_getElem? fun j => ?_, fun loc => ?_⟩
  · cases hs : sources[j]? with
    | some s => rw [(htracks.inStep j s hs).job_eq, (htracks'.inStep j s hs).job_eq, halone j s hs]
    | none =>
      have hlength := List.getElem?_eq_none_iff.mp hs
      rw [List.getElem?_eq_none (htracks.length_eq ▸ hlength),
        List.getElem?_eq_none (htracks'.length_eq ▸ hlength)]
  · by_cases hloc : loc ∈ workFiles registry settings dryRun sources t
    · obtain ⟨s, hs, hmem⟩ := hloc
      obtain ⟨j, hs⟩ := List.mem_iff_getElem?.mp hs
      rw [htracks.find?_of_mem_filesOf h hs hmem, htracks'.find?_of_mem_filesOf h hs hmem, halone j s hs]
    · rcases htracks.grows.find?_eq_or loc hloc with heq | ⟨-, -, hmade, -⟩
      · rcases htracks'.grows.find?_eq_or loc hloc with heq' | ⟨-, -, hmade, -⟩
        · exact heq.trans heq'.symm
        · rw [hmade]
          exact htracks'.directory_of_alone_eq htracks (fun j s hs => (halone j s hs).symm) hmade
      · rw [hmade]
        exact (htracks.directory_of_alone_eq htracks' halone hmade).symm

end Tracks

/-! ## Schedules -/

/-- Every schedule after which all jobs have ended leaves what is left by working on one source after another:
the same at every location, and the same outcomes, which are gathered in the order of the sources in whatever
order the jobs end. -/
theorem Independent.run_eq {registry : Registry} {settings : Settings} {dryRun : Bool} {sources : List Source}
    {t : FileTree} {schedule : List Nat} {pool : Pool} (h : Independent registry settings dryRun sources t)
    (hpool : Pool.run registry settings dryRun (Pool.start sources t) schedule = pool)
    (hended : ∀ job ∈ pool.jobs, job.outcome? ≠ none) :
    (∀ loc, pool.tree.find? loc
        = ((produceAll registry settings dryRun sources).runOn t).2.find? loc)
      ∧ pool.jobs.map Job.outcome? = ((produceAll registry settings dryRun sources).runOn t).1.map some
      ∧ ∀ order : List Nat, order.Perm (List.range sources.length) → ∀ products,
        gatherProducts pool.jobs order = .ok products
          ↔ ((produceAll registry settings dryRun sources).runOn t).1 = products.map .ok := by
  obtain ⟨oneByOne, jobs, hrun, houtcomes⟩ :=
    Pool.exists_run_eq_produceAll registry settings dryRun [] sources t
  have htracks := Tracks.run h schedule
  have htracks' := Tracks.run h oneByOne
  rw [hpool] at htracks
  rw [Pool.start, ← List.nil_append (sources.map Job.building), hrun] at htracks'
  have hended' : ∀ job ∈ jobs, job.outcome? ≠ none := by
    intro job hjob
    have hmem := List.mem_map_of_mem (f := Job.outcome?) hjob
    rw [houtcomes] at hmem
    obtain ⟨outcome, -, houtcome⟩ := List.mem_map.mp hmem
    rw [← houtcome]
    exact Option.some_ne_none outcome
  obtain ⟨hjobs, htree⟩ := htracks.eq_of_ended h htracks' hended hended'
  rw [List.nil_append] at hjobs
  rw [hjobs]
  refine ⟨htree, houtcomes, fun order horder products => gatherProducts_eq_ok_iff houtcomes ?_⟩
  rwa [← hjobs, htracks.length_eq]

/-! ## Runs on a small tree -/

/-- A tree with an empty working directory. -/
def workTree : FileTree :=
  ⟨[(["work"], .directory FileNode.directoryMode)], ["work"]⟩

theorem wellFormed_workTree : workTree.WellFormed :=
  FileTree.wellFormed_of_nodes (List.forall_mem_singleton.mpr ⟨_, rfl⟩) ⟨_, rfl⟩

/-- Two sources are worked on by turns, and both make the directory that their files are in. -/
theorem Independent.run_eq_by_turns :
    Independent ⟨[], []⟩ lightSettings false [rangeSource "Lights.cs", rangeSource "Probes.cs"] workTree
      ∧ ∃ pool, Pool.run ⟨[], []⟩ lightSettings false
          (Pool.start [rangeSource "Lights.cs", rangeSource "Probes.cs"] workTree) [1, 0, 0, 1, 1, 0] = pool
        ∧ (∀ job ∈ pool.jobs, job.outcome? ≠ none)
        ∧ ∀ loc, pool.tree.find? loc = ((produceAll ⟨[], []⟩ lightSettings false
            [rangeSource "Lights.cs", rangeSource "Probes.cs"]).runOn workTree).2.find? loc := by
  have hindependent : Independent ⟨[], []⟩ lightSettings false
      [rangeSource "Lights.cs", rangeSource "Probes.cs"] workTree :=
    ⟨wellFormed_workTree, by decide +kernel, by decide +kernel⟩
  have hended : ∀ job ∈ (Pool.run ⟨[], []⟩ lightSettings false
      (Pool.start [rangeSource "Lights.cs", rangeSource "Probes.cs"] workTree) [1, 0, 0, 1, 1, 0]).jobs,
      job.outcome? ≠ none := by decide +kernel
  exact ⟨hindependent, _, rfl, hended, (Independent.run_eq hindependent rfl hended).1⟩

end ShaderRecords

/-
ShaderRecords.Proofs.Run.Jobs — sources worked on at the same time.

The work on a source is a `Job`: its products are built in one step, and every file is written in one more. A
pool advances its jobs in any order, and `gatherProducts` collects what they give in the order in which they end. To
work on one source after another is one such order: `exists_run_eq_produceAll` finds the schedule that leaves
what `produceAll` leaves.
-/
import Mathlib.Logic.Function.Iterate
import ShaderRecords.Proofs.Files.Tandem
import ShaderRecords.Run.Generation

namespace ShaderRecords

/-! ## Jobs -/

/-- How far the work on a source is. -/
inductive Job where
  | building (s : Source)
  /-- The files that are still to be written. -/
  | delivering (p : SourceProduct) (rest : List (Path × String))
  | broken (b : Breakdown)

namespace Job

/-- What a job has given, when nothing is left to do. -/
def outcome? : Job → Option (Except Breakdown SourceProduct)
  | building _ => none
  | delivering p [] => some (.ok p)
  | delivering _ (_ :: _) => none
  | broken b => some (.error b)

variable (registry : Registry) (settings : Settings) (dryRun : Bool)

/-- The next step of a job, and the tree after it; nothing is done when nothing is left to do. -/
def step : Job × FileTree → Job × FileTree
  | (building s, t) =>
    match (SourceProduct.build registry settings true s).runOn t with
    | (.ok p, t') => (delivering p (if dryRun then [] else p.outputs), t')
    | (.error b, t') => (broken b, t')
  | (delivering p [], t) => (delivering p [], t)
  | (delivering p ((path, text) :: rest), t) =>
    match (Fate.deliver path text).runOn t with
    | (.ok fate, t') => (delivering (p.note path fate) rest, t')
    | (.error b, t') => (broken b, t')
  | (broken b, t) => (broken b, t)

theorem step_of_outcome? {job : Job} {t : FileTree} {outcome : Except Breakdown SourceProduct}
    (h : job.outcome? = some outcome) : step registry settings dryRun (job, t) = (job, t) := by
  cases job with
  | building s => cases h
  | broken b => rfl
  | delivering p rest =>
    cases rest with
    | nil => rfl
    | cons output rest => cases h

theorem iterate_step_of_outcome? {job : Job} {t : FileTree} {outcome : Except Breakdown SourceProduct}
    (h : job.outcome? = some outcome) (n : Nat) :
    (step registry settings dryRun)^[n] (job, t) = (job, t) :=
  Function.iterate_fixed (step_of_outcome? registry settings dryRun h) n

/-- A job that delivers gives what the delivery gives. -/
theorem exists_iterate_step_delivering (rest : List (Path × String)) (p : SourceProduct) (t : FileTree) :
    ∃ n job, (step registry settings dryRun)^[n] (delivering p rest, t)
        = (job, ((p.deliverAll rest).runOn t).2)
      ∧ job.outcome? = some ((p.deliverAll rest).runOn t).1 := by
  induction rest generalizing p t with
  | nil => exact ⟨0, delivering p [], rfl, rfl⟩
  | cons output rest ih =>
    obtain ⟨path, text⟩ := output
    unfold SourceProduct.deliverAll
    rw [Filing.runOn_bind]
    cases hrun : (Fate.deliver path text).runOn t with
    | mk result t' =>
      cases result with
      | error b =>
        refine ⟨1, broken b, ?_, rfl⟩
        rw [Function.iterate_one, step, hrun]
      | ok fate =>
        obtain ⟨n, job, hiterate, houtcome⟩ := ih (p.note path fate) t'
        refine ⟨n + 1, job, ?_, houtcome⟩
        rw [Function.iterate_succ_apply, step, hrun]
        exact hiterate

/-- A job gives what the work on its source gives. -/
theorem exists_iterate_step_building (s : Source) (t : FileTree) :
    ∃ n job, (step registry settings dryRun)^[n] (building s, t)
        = (job, ((produce registry settings dryRun s).runOn t).2)
      ∧ job.outcome? = some ((produce registry settings dryRun s).runOn t).1 := by
  unfold produce
  rw [Filing.runOn_bind]
  cases hrun : (SourceProduct.build registry settings true s).runOn t with
  | mk result t' =>
    cases result with
    | error b =>
      refine ⟨1, broken b, ?_, rfl⟩
      rw [Function.iterate_one, step, hrun]
    | ok p =>
      cases dryRun with
      | true =>
        refine ⟨1, delivering p [], ?_, rfl⟩
        rw [Function.iterate_one, step, hrun]
        rfl
      | false =>
        obtain ⟨n, job, hiterate, houtcome⟩ :=
          exists_iterate_step_delivering registry settings false p.outputs p t'
        refine ⟨n + 1, job, ?_, houtcome⟩
        rw [Function.iterate_succ_apply, step, hrun]
        exact hiterate

end Job

/-! ## Pools -/

/-- Jobs that work on one tree. -/
structure Pool where
  jobs : List Job
  tree : FileTree

namespace Pool

/-- A pool with a job for each source. -/
def start (sources : List Source) (t : FileTree) : Pool :=
  ⟨sources.map .building, t⟩

variable (registry : Registry) (settings : Settings) (dryRun : Bool)

/-- The pool after a step of one of its jobs. -/
def advance (pool : Pool) (i : Nat) : Pool :=
  match pool.jobs[i]? with
  | none => pool
  | some job =>
    let (job', t') := Job.step registry settings dryRun (job, pool.tree)
    ⟨pool.jobs.set i job', t'⟩

/-- The pool after steps of its jobs; a schedule says whose step comes next. -/
def run (pool : Pool) (schedule : List Nat) : Pool :=
  schedule.foldl (advance registry settings dryRun) pool

theorem run_append (pool : Pool) (before rest : List Nat) :
    run registry settings dryRun pool (before ++ rest)
      = run registry settings dryRun (run registry settings dryRun pool before) rest :=
  List.foldl_append

/-- A pool of which only one job is advanced goes on as that job does. -/
theorem run_replicate (before rest : List Job) (job : Job) (t : FileTree) (n : Nat) :
    run registry settings dryRun ⟨before ++ job :: rest, t⟩ (List.replicate n before.length)
      = ⟨before ++ ((Job.step registry settings dryRun)^[n] (job, t)).1 :: rest,
        ((Job.step registry settings dryRun)^[n] (job, t)).2⟩ := by
  induction n generalizing job t with
  | zero => rfl
  | succ n ih =>
    have hadvance : advance registry settings dryRun ⟨before ++ job :: rest, t⟩ before.length
        = ⟨before ++ (Job.step registry settings dryRun (job, t)).1 :: rest,
          (Job.step registry settings dryRun (job, t)).2⟩ := by
      simp [advance]
    rw [List.replicate_succ, run, List.foldl_cons, hadvance, Function.iterate_succ_apply]
    exact ih _ _

theorem runOn_produceAll_cons (s : Source) (sources : List Source) (t : FileTree) :
    (produceAll registry settings dryRun (s :: sources)).runOn t
      = (((produce registry settings dryRun s).runOn t).1 ::
          ((produceAll registry settings dryRun sources).runOn ((produce registry settings dryRun s).runOn t).2).1,
        ((produceAll registry settings dryRun sources).runOn
          ((produce registry settings dryRun s).runOn t).2).2) := by
  unfold produceAll
  rw [List.mapM_cons]
  show ((produce registry settings dryRun s).run.andThen _).runOn t = _
  rw [Filing.runOn_andThen]
  show ((List.mapM _ sources : FileProgram _).andThen _).runOn _ = _
  rw [Filing.runOn_andThen]
  rfl

/-- Working on one source after another is a schedule, in which every job ends. -/
theorem exists_run_eq_produceAll (before : List Job) (sources : List Source) (t : FileTree) :
    ∃ schedule jobs, run registry settings dryRun ⟨before ++ sources.map .building, t⟩ schedule
        = ⟨before ++ jobs, ((produceAll registry settings dryRun sources).runOn t).2⟩
      ∧ jobs.map Job.outcome? = ((produceAll registry settings dryRun sources).runOn t).1.map some := by
  induction sources generalizing before t with
  | nil => exact ⟨[], [], rfl, rfl⟩
  | cons s sources ih =>
    obtain ⟨n, job, hiterate, houtcome⟩ := Job.exists_iterate_step_building registry settings dryRun s t
    obtain ⟨schedule, jobs, hschedule, houtcomes⟩ :=
      ih (before ++ [job]) ((produce registry settings dryRun s).runOn t).2
    refine ⟨List.replicate n before.length ++ schedule, job :: jobs, ?_, ?_⟩
    · rw [run_append, List.map_cons, run_replicate registry settings dryRun, hiterate, runOn_produceAll_cons,
        List.append_cons, hschedule, List.append_assoc]
      rfl
    · rw [List.map_cons, houtcome, houtcomes, runOn_produceAll_cons]
      rfl

end Pool

/-! ## Results in the order in which they come -/

/-- The results with that of a job noted at the place of its source; a job that has broken down ends this too. -/
def noteOutcome (jobs : List Job) (results : List (Option SourceProduct)) (i : Nat) :
    Except Breakdown (List (Option SourceProduct)) :=
  match jobs[i]?.bind Job.outcome? with
  | none => .ok results
  | some (.ok p) => .ok (results.set i (some p))
  | some (.error b) => .error b

/-- The products of jobs that end in some order, in the order of their sources. -/
def gatherProducts (jobs : List Job) (order : List Nat) : Except Breakdown (List SourceProduct) := do
  let results ← order.foldlM (noteOutcome jobs) (List.replicate jobs.length none)
  return results.reduceOption

section

variable {jobs : List Job} {products : List SourceProduct} {order : List Nat}

/-- The outcome of a job that has ended stands at the place of the job. -/
theorem outcome?_getElem? {outcomes : List (Except Breakdown SourceProduct)}
    (hdone : jobs.map Job.outcome? = outcomes.map some) (i : Nat) :
    jobs[i]?.bind Job.outcome? = outcomes[i]? := by
  have hget : jobs[i]?.map Job.outcome? = outcomes[i]?.map some := by
    rw [← List.getElem?_map, ← List.getElem?_map, hdone]
  calc jobs[i]?.bind Job.outcome?
    _ = (jobs[i]?.map Job.outcome?).bind id := by rw [Option.bind_map, Function.id_comp]
    _ = (outcomes[i]?.map some).bind id := by rw [hget]
    _ = outcomes[i]? := by rw [Option.bind_map, Function.id_comp, Option.bind_fun_some]

/-- What is noted of jobs that all have given products: those of the jobs that have ended. -/
theorem foldlM_noteOutcome (order : List Nat) (h : jobs.map Job.outcome? = (products.map .ok).map some)
    (results : List (Option SourceProduct)) (hlength : results.length = products.length) :
    ∃ noted, order.foldlM (noteOutcome jobs) results = .ok noted ∧ noted.length = products.length
      ∧ ∀ i < products.length, noted[i]? = if i ∈ order then some products[i]? else results[i]? := by
  induction order generalizing results with
  | nil => exact ⟨results, rfl, hlength, fun i _ => by simp⟩
  | cons i order ih =>
    rw [List.foldlM_cons, noteOutcome, outcome?_getElem? h, List.getElem?_map]
    cases hp : products[i]? with
    | none =>
      obtain ⟨noted, hnoted, hnotedLength, hget⟩ := ih results hlength
      refine ⟨noted, hnoted, hnotedLength, fun k hk => ?_⟩
      have hne : k ≠ i := by
        rintro rfl
        rw [List.getElem?_eq_getElem hk] at hp
        cases hp
      rw [hget k hk]
      simp [hne]
    | some p =>
      obtain ⟨noted, hnoted, hnotedLength, hget⟩ :=
        ih (results.set i (some p)) (by rw [List.length_set, hlength])
      refine ⟨noted, hnoted, hnotedLength, fun k hk => ?_⟩
      rw [hget k hk]
      by_cases hki : k = i
      · subst hki
        by_cases hmem : k ∈ order
        · simp [hmem]
        · obtain ⟨-, rfl⟩ := List.getElem?_eq_some_iff.mp hp
          simp [hmem, hlength, hk]
      · simp [hki, List.getElem?_set_ne (Ne.symm hki)]

/-- No job that is noted has broken down. -/
theorem outcome?_ne_error_of_foldlM {results noted : List (Option SourceProduct)}
    (h : order.foldlM (noteOutcome jobs) results = .ok noted) {i : Nat} (hi : i ∈ order) (b : Breakdown) :
    jobs[i]?.bind Job.outcome? ≠ some (.error b) := by
  induction order generalizing results with
  | nil => cases hi
  | cons k order ih =>
    rw [List.foldlM_cons, bind_eq_ok_iff] at h
    obtain ⟨next, hnext, hrest⟩ := h
    rcases List.mem_cons.mp hi with rfl | hmem
    · intro hbroken
      rw [noteOutcome, hbroken] at hnext
      cases hnext
    · exact ih hrest hmem

theorem exists_map_ok {outcomes : List (Except Breakdown SourceProduct)}
    (h : ∀ outcome ∈ outcomes, ∃ p, outcome = .ok p) :
    ∃ products : List SourceProduct, outcomes = products.map .ok := by
  induction outcomes with
  | nil => exact ⟨[], rfl⟩
  | cons outcome outcomes ih =>
    obtain ⟨⟨p, rfl⟩, hrest⟩ := List.forall_mem_cons.mp h
    obtain ⟨products, rfl⟩ := ih hrest
    exact ⟨p :: products, rfl⟩

/-- Products of jobs are gathered in the order of their sources, in whatever order the jobs end. -/
theorem gatherProducts_of_map_ok (hdone : jobs.map Job.outcome? = (products.map .ok).map some)
    (horder : order.Perm (List.range jobs.length)) : gatherProducts jobs order = .ok products := by
  have hlength : jobs.length = products.length := by simpa using congrArg List.length hdone
  obtain ⟨noted, hnoted, hnotedLength, hget⟩ :=
    foldlM_noteOutcome order hdone (List.replicate jobs.length none) (by simp [hlength])
  have hall : noted = products.map some := by
    refine List.ext_getElem? fun i => ?_
    by_cases hi : i < products.length
    · have hmem : i ∈ order := horder.mem_iff.mpr (List.mem_range.mpr (hlength ▸ hi))
      rw [hget i hi, if_pos hmem, List.getElem?_map, List.getElem?_eq_getElem hi]
      rfl
    · rw [List.getElem?_eq_none (by omega), List.getElem?_eq_none (by simpa using hi)]
  have hsome : (products.map some).reduceOption = products := by
    show (products.map some).filterMap id = products
    rw [List.filterMap_map]
    exact List.filterMap_some
  rw [gatherProducts, hnoted, hall, ok_bind, hsome]
  rfl

/-- Jobs whose products can be gathered have not broken down. -/
theorem exists_map_ok_of_gatherProducts {outcomes : List (Except Breakdown SourceProduct)}
    (hdone : jobs.map Job.outcome? = outcomes.map some) (horder : order.Perm (List.range jobs.length))
    (h : gatherProducts jobs order = .ok products) : ∃ products : List SourceProduct, outcomes = products.map .ok := by
  obtain ⟨noted, hnoted, -⟩ := bind_eq_ok_iff.mp h
  refine exists_map_ok fun outcome hmem => ?_
  obtain ⟨i, hi⟩ := List.mem_iff_getElem?.mp hmem
  have hjob : jobs[i]?.bind Job.outcome? = some outcome := (outcome?_getElem? hdone i).trans hi
  have hplace : i ∈ order := by
    obtain ⟨job, hget, -⟩ := Option.bind_eq_some_iff.mp hjob
    exact horder.mem_iff.mpr (List.mem_range.mpr (List.getElem?_eq_some_iff.mp hget).1)
  cases outcome with
  | ok p => exact ⟨p, rfl⟩
  | error b => exact absurd hjob (outcome?_ne_error_of_foldlM hnoted hplace b)

/-- In whatever order jobs end, their products are gathered in the order of their sources, and none are if a
job has broken down. -/
theorem gatherProducts_eq_ok_iff {outcomes : List (Except Breakdown SourceProduct)}
    (hdone : jobs.map Job.outcome? = outcomes.map some) (horder : order.Perm (List.range jobs.length)) :
    gatherProducts jobs order = .ok products ↔ outcomes = products.map .ok := by
  constructor
  · intro h
    obtain ⟨others, rfl⟩ := exists_map_ok_of_gatherProducts hdone horder h
    rw [gatherProducts_of_map_ok hdone horder] at h
    rw [Except.ok.inj h]
  · rintro rfl
    exact gatherProducts_of_map_ok hdone horder

end

end ShaderRecords

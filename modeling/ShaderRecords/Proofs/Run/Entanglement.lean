/-
ShaderRecords.Proofs.Run.Entanglement — sources whose products depend on which of them is worked on first.

That sources keep apart is not enough for what they give to be the same after every schedule: a directory that
is made for one source can decide whether the companion of another is found (`Entangled`). It may have the name
of the companion, it may be passed through on a way that leaves it again, or it may have to be there before a
name behind it is found to be too long. `entangled_of_directories` has one example of each.
-/
import ShaderRecords.Proofs.Run.Scheduling

namespace ShaderRecords

/-! ## Entangled sources -/

/-- Whether sources keep apart, and what they give depends on the schedule nevertheless. -/
def Entangled (registry : Registry) (settings : Settings) (sources : List Source) (t : FileTree) : Prop :=
  t.WellFormed
    ∧ (sources.Pairwise fun s other =>
      s.KeepsApart registry settings false t other ∧ other.KeepsApart registry settings false t s)
    ∧ ∃ schedule pool, Pool.run registry settings false (Pool.start sources t) schedule = pool
      ∧ (∀ job ∈ pool.jobs, job.outcome? ≠ none)
      ∧ pool.jobs.map Job.outcome? ≠ ((produceAll registry settings false sources).runOn t).1.map some

section

variable {registry : Registry} {settings : Settings} {dryRun : Bool} {s other : Source} {p p' : SourceProduct}
  {t t' : FileTree}

/-- Two sources are entangled if the one gives something else after the other has been worked on. -/
theorem entangled_of_produce (ht : t.WellFormed)
    (hapart : s.KeepsApart registry settings false t other ∧ other.KeepsApart registry settings false t s)
    (hdiffer : ((produce registry settings false s).runOn
        ((produce registry settings false other).runOn t).2).1
      ≠ ((produce registry settings false s).runOn t).1) :
    Entangled registry settings [s, other] t := by
  obtain ⟨n, job, hrun, houtcome⟩ := Job.exists_iterate_step_building registry settings false other t
  obtain ⟨m, job', hrun', houtcome'⟩ := Job.exists_iterate_step_building registry settings false s
    ((produce registry settings false other).runOn t).2
  have hschedule : Pool.run registry settings false (Pool.start [s, other] t)
      (List.replicate n 1 ++ List.replicate m 0)
        = ⟨[job', job], ((produce registry settings false s).runOn
          ((produce registry settings false other).runOn t).2).2⟩ := by
    have hlast := Pool.run_replicate registry settings false [.building s] [] (.building other) t n
    have hfirst := Pool.run_replicate registry settings false [] [job] (.building s)
      ((produce registry settings false other).runOn t).2 m
    rw [hrun] at hlast
    rw [hrun'] at hfirst
    rw [Pool.run_append]
    exact (congrArg (Pool.run registry settings false · (List.replicate m 0)) hlast).trans hfirst
  refine ⟨ht, List.pairwise_pair.mpr hapart, _, _, hschedule, fun job hjob => ?_, fun heq => ?_⟩
  · simp only [List.mem_cons, List.not_mem_nil, or_false] at hjob
    rcases hjob with rfl | rfl
    · rw [houtcome']
      exact Option.some_ne_none _
    · rw [houtcome]
      exact Option.some_ne_none _
  · rw [Pool.runOn_produceAll_cons, List.map_cons, houtcome'] at heq
    exact hdiffer (Option.some.inj (List.cons.inj heq).1)

/-- Writing files keeps their texts. -/
theorem outputs_of_deliverAll {rest : List (Path × String)}
    (h : ((p.deliverAll rest).runOn t).1 = .ok p') : p'.outputs = p.outputs := by
  induction rest generalizing p t with
  | nil => exact congrArg (·.outputs) (Except.ok.inj h).symm
  | cons output rest ih =>
    obtain ⟨path, text⟩ := output
    unfold SourceProduct.deliverAll at h
    rw [Filing.runOn_bind] at h
    split at h
    next fate _ _ =>
      rw [ih h]
      cases fate <;> rfl
    next => cases h

/-- What is found when a source is built decides its texts. -/
theorem outputs_of_produce (hplan : SourceProduct.plan registry settings true s = .ok p)
    (hprobes : (p.hasInclude || p.hasPragmas) = true) {there : Bool}
    (hthere : ((Filing.isThere p.companion).runOn t).1 = .ok there)
    (h : ((produce registry settings dryRun s).runOn t).1 = .ok p') : p'.outputs = p.texts settings there := by
  unfold produce at h
  rw [Source.build_of_plan_ok hplan, if_pos hprobes, Filing.runOn_bind, Filing.runOn_bind] at h
  cases hrun : (Filing.isThere p.companion).runOn t with
  | mk result t' =>
    rw [hrun] at h hthere
    obtain rfl : result = .ok there := hthere
    cases dryRun with
    | true => exact congrArg (·.outputs) (Except.ok.inj h).symm
    | false => exact outputs_of_deliverAll h

/-- A companion shows in the texts. -/
theorem ofTypes_ne (guard body bindings name : String) :
    FileText.ofTypes settings guard body bindings (some name) ≠ FileText.ofTypes settings guard body bindings none := by
  unfold FileText.ofTypes FileText.guarded
  rw [ne_eq, String.append_right_inj, String.append_right_inj]
  intro heq
  have hlength := congrArg String.length heq
  rw [FileText.inclusion, String.length_append, String.length_append] at hlength
  have hnone : (FileText.inclusion none).length = 0 := rfl
  have hend : ("\"\n" : String).length = 2 := rfl
  omega

theorem texts_ne_of_hasInclude (h : p.hasInclude = true) : p.texts settings true ≠ p.texts settings false := by
  intro heq
  have hfirst := congrArg (fun texts => texts.head?.map (·.2)) heq
  simp only [SourceProduct.texts, h, if_true, List.cons_append, List.nil_append, List.head?_cons,
    Option.map_some, Option.some.injEq, Bool.false_eq_true, if_false] at hfirst
  exact ofTypes_ne _ _ _ _ hfirst

/-- A source with types that can be planned has a file of them. -/
theorem exists_plan_of_types (hplan : (SourceProduct.plan registry settings true s).isOk = true)
    (htypes : s.types ≠ []) :
    ∃ p, SourceProduct.plan registry settings true s = .ok p ∧ p.hasInclude = true
      ∧ (p.hasInclude || p.hasPragmas) = true := by
  cases hp : SourceProduct.plan registry settings true s with
  | error b => simp [hp, Except.isOk, Except.toBool] at hplan
  | ok p =>
    have hinclude : p.hasInclude = true := by
      rw [SourceProduct.hasInclude, (SourceProduct.targets_of_plan hp).1]
      simp [htypes]
    exact ⟨p, rfl, hinclude, by rw [hinclude, Bool.true_or]⟩

/-- A source gives something else where its companion is there. -/
theorem produce_ne_of_companion (hplan : (SourceProduct.plan registry settings true s).isOk = true)
    (htypes : s.types ≠ [])
    (hthere : ((Filing.isThere ((s.directory settings).below s.companionName)).runOn t').1.toOption = some true)
    (hnot : ((Filing.isThere ((s.directory settings).below s.companionName)).runOn t).1.toOption = some false)
    (hmade : ((produce registry settings dryRun s).runOn t).1.isOk = true) :
    ((produce registry settings dryRun s).runOn t').1 ≠ ((produce registry settings dryRun s).runOn t).1 := by
  intro heq
  obtain ⟨p, hp, hinclude, hprobes⟩ := exists_plan_of_types hplan htypes
  rw [← Source.companion_eq hp] at hthere hnot
  cases hp' : ((produce registry settings dryRun s).runOn t).1 with
  | error b => simp [hp', Except.isOk, Except.toBool] at hmade
  | ok p' =>
    refine texts_ne_of_hasInclude hinclude (?_ : p.texts settings true = p.texts settings false)
    rw [← outputs_of_produce hp hprobes (eq_ok_of_toOption hthere) (heq.trans hp'),
      outputs_of_produce hp hprobes (eq_ok_of_toOption hnot) hp']

/-- Writing files breaks down with nothing that the file system has said. -/
theorem deliverAll_ne_file {rest : List (Path × String)} (e : FileError) :
    ((p.deliverAll rest).runOn t).1 ≠ .error (.file e) := by
  induction rest generalizing p t with
  | nil => nofun
  | cons output rest ih =>
    obtain ⟨path, text⟩ := output
    unfold SourceProduct.deliverAll Fate.deliver
    rw [Filing.runOn_bind, Filing.runOn_tryCatch]
    split
    next => exact ih
    next b t' hrun =>
      rintro heq
      obtain rfl : b = .file e := Except.error.inj heq
      split at hrun
      next => cases (Prod.mk.inj hrun).1
      next b _ _ => cases b <;> cases (Prod.mk.inj hrun).1

/-- A source breaks down where the name of its companion is found to be too long, which it is not where its
directory is still to be made. -/
theorem produce_ne_of_long_name (hplan : (SourceProduct.plan registry settings true s).isOk = true)
    (htypes : s.types ≠ [])
    (hname : Filing.IsNameable ((s.directory settings).below s.companionName))
    (hlong : t'.node ((s.directory settings).below s.companionName) = .error .nameTooLong)
    (hmissing : t.node ((s.directory settings).below s.companionName) = .error .notFound) :
    ((produce registry settings false s).runOn t').1 ≠ ((produce registry settings false s).runOn t).1 := by
  obtain ⟨p, hp, -, hprobes⟩ := exists_plan_of_types hplan htypes
  rw [← Source.companion_eq hp] at hname hlong hmissing
  unfold produce
  rw [Source.build_of_plan_ok hp, if_pos hprobes]
  simp only [Filing.runOn_bind, Filing.runOn_isThere_of_error hname hlong,
    Filing.runOn_isThere_of_error hname hmissing]
  exact fun heq => deliverAll_ne_file _ heq.symm

end

/-! ## Long names -/

/-- A text without slashes and points is read as one name, and has no extension. -/
theorem Path.ofText_of_plain {name : String} (hne : name ≠ "") (h : ∀ c ∈ name.toList, c ≠ '/' ∧ c ≠ '.') :
    Path.ofText name = ⟨"", [name]⟩ ∧ (Path.ofText name).stem = name := by
  have hpoint : name ≠ "." := by
    rintro rfl
    exact (h '.' (by decide)).2 rfl
  have hsplit : Path.splitParts name.toList = [name] := by
    rw [Path.splitParts, List.splitOnP_eq_singleton (by simpa using fun c hc => (h c hc).1)]
    simp [hne, hpoint]
  have hroot : Path.rootOf name.toList = "" := by
    cases hname : name.toList with
    | nil => rfl
    | cons c rest =>
      have hc := (h c (hname ▸ List.mem_cons_self)).1
      unfold Path.rootOf
      split <;> simp_all
  have hpath : Path.ofText name = ⟨"", [name]⟩ := by rw [Path.ofText, hsplit, hroot]
  have hdrop : name.toList.reverse.dropWhile (· ≠ '.') = [] := by
    rw [List.dropWhile_eq_nil_iff]
    simpa using fun c hc => (h c hc).2
  have hname : (⟨"", [name]⟩ : Path).name = name := rfl
  refine ⟨hpath, ?_⟩
  rw [Path.stem, hpath, hname, Path.dropExtension, hdrop, if_pos (.inr rfl), String.ofList_toList]

/-- A name that is too long is found to be so in every directory that can be entered. -/
theorem enter_of_long {t : FileTree} {loc next : Location} {name other : String}
    (h : t.enter loc other = .ok next) (hups : name ≠ "..") (hlong : name.utf8ByteSize > FileTree.maxNameBytes) :
    t.enter loc name = .error .nameTooLong := by
  unfold FileTree.enter at h ⊢
  split at h
  · cases h
  · cases h
  · split at h
    · cases h
    next hsearch => rw [if_neg hsearch, if_neg hups, if_pos hlong]

/-- Where another name in a directory leads to somewhere, a name that is too long is found to be so. -/
theorem locate_below_of_long {t : FileTree} {d : Path} {loc : Location} {name other : String}
    (h : t.locate (d.below other) = .ok loc) (hups : name ≠ "..")
    (hfits : (d.below name).display.utf8ByteSize ≤ FileTree.maxPathBytes)
    (hlong : name.utf8ByteSize > FileTree.maxNameBytes) : t.locate (d.below name) = .error .nameTooLong := by
  rw [FileTree.locate_below] at h ⊢
  rw [if_neg (Nat.not_lt.mpr hfits)]
  split at h
  · cases h
  · obtain ⟨between, hfollow, henter⟩ := bind_eq_ok_iff.mp h
    rw [hfollow, ok_bind]
    exact enter_of_long henter hups hlong

/-- How many bytes the names of a location have. -/
def Location.size (loc : Location) : Nat :=
  (loc.map String.utf8ByteSize).sum

/-- The directory of the files on the small tree. -/
def outPath : Path :=
  ⟨"", ["out"]⟩

theorem display_outPath (name : String) : (outPath.below name).display = "out/" ++ name := by
  show "" ++ "/".intercalate ["out", name] = _
  rw [String.intercalate_cons_cons, String.intercalate_singleton]
  rfl

theorem locationOf_outPath {name : String} (h : name ≠ "..") :
    workTree.locationOf (outPath.below name) = ["work", "out", name] := by
  rw [FileTree.locationOf, outPath, Path.below]
  exact (Location.after_append _ ["out"] [name]).trans (Location.after_singleton h)

section

variable {name : String}

theorem directory_of_plain (hpath : Path.ofText name = ⟨"", [name]⟩) :
    (rangeSource name).directory lightSettings = outPath := by
  rw [Source.directory, SourceProduct.base, rangeSource, hpath]
  rfl

theorem companion_of_plain (hpath : Path.ofText name = ⟨"", [name]⟩)
    (hstem : (Path.ofText name).stem = name) :
    ((rangeSource name).directory lightSettings).below (rangeSource name).companionName
      = outPath.below (name ++ ".custom.hlsl") := by
  rw [directory_of_plain hpath, Source.companionName, rangeSource, hstem]

/-- What is written for a source is named after it. -/
theorem exists_of_mem_writes (hpath : Path.ofText name = ⟨"", [name]⟩) {p : Path}
    (h : p ∈ (rangeSource name).writes ⟨[], []⟩ lightSettings false) :
    ∃ extension, 2 < extension.length ∧ p = outPath.below (name ++ extension) := by
  have hdirectory := directory_of_plain hpath
  have hname : (Path.ofText (rangeSource name).path).name = name := by
    rw [rangeSource, hpath]
    rfl
  obtain ⟨-, hfile | ⟨q, hfile, rfl⟩⟩ := Source.mem_writes.mp h
  · obtain ⟨extension, hextension, rfl⟩ := Source.exists_below_of_mem_outputPaths hfile
    exact ⟨extension, hextension, by rw [hdirectory, hname]⟩
  · obtain ⟨extension, hextension, rfl⟩ := Source.exists_below_of_mem_outputPaths hfile
    refine ⟨extension ++ ".tmp", ?_, ?_⟩
    · rw [String.length_append]
      omega
    · rw [Path.draft, Path.name_below, Path.sibling_eq_below, Path.parent_below, hdirectory, hname,
        String.append_assoc]

theorem eq_of_mem_probes (hpath : Path.ofText name = ⟨"", [name]⟩) (hstem : (Path.ofText name).stem = name)
    {p : Path} (h : p ∈ (rangeSource name).probes ⟨[], []⟩ lightSettings) :
    p = outPath.below (name ++ ".custom.hlsl") := by
  unfold Source.probes at h
  cases hplan : SourceProduct.plan ⟨[], []⟩ lightSettings true (rangeSource name) with
  | error b => simp [hplan] at h
  | ok product =>
    simp only [hplan] at h
    split at h
    · rw [List.mem_singleton.mp h, Source.companion_eq hplan, companion_of_plain hpath hstem]
    · cases h

/-- All that the source with the short name writes and looks at has a short location, and the files of a source
beside it go into the directory that it makes. -/
theorem locations_of_probes :
    (∀ q ∈ (rangeSource "Probes.cs").writes ⟨[], []⟩ lightSettings false,
      (workTree.locationOf q).length = 3 ∧ (workTree.locationOf q).size < 64
        ∧ ∀ k ≤ q.parts.length, (workTree.waypoint q k).size < 64)
      ∧ (∀ q ∈ (rangeSource "Probes.cs").probes ⟨[], []⟩ lightSettings, (workTree.locationOf q).size < 64)
      ∧ (((produce ⟨[], []⟩ lightSettings false (rangeSource "Probes.cs")).runOn workTree).2.locate
          (outPath.below "Lights")).toOption = some ["work", "out", "Lights"] := by
  decide +kernel

/-- What is written for a source with a long name is apart from what is written for one with a short name. -/
theorem keepsApart_of_long_name (hpath : Path.ofText name = ⟨"", [name]⟩)
    (hstem : (Path.ofText name).stem = name) (hsize : 64 ≤ name.utf8ByteSize) :
    (rangeSource name).KeepsApart ⟨[], []⟩ lightSettings false workTree (rangeSource "Probes.cs")
      ∧ (rangeSource "Probes.cs").KeepsApart ⟨[], []⟩ lightSettings false workTree (rangeSource name) := by
  have hlong : ∀ {extension : String}, 2 < extension.length → ∀ {loc : Location}, loc.size < 64 →
      workTree.locationOf (outPath.below (name ++ extension)) ≠ loc := by
    rintro extension hextension _ hshort rfl
    rw [locationOf_outPath (append_ne_ups hextension)] at hshort
    simp only [Location.size, List.map_cons, List.map_nil, List.sum_cons, List.sum_nil,
      String.utf8ByteSize_append] at hshort
    omega
  obtain ⟨hwrites, hprobes, -⟩ := locations_of_probes
  refine ⟨⟨fun p hp q hq k hk => ?_, fun p hp q hq => ?_⟩, fun q hq p hp k hk heq => ?_, fun q hq p hp heq => ?_⟩
  · obtain ⟨extension, hextension, rfl⟩ := exists_of_mem_writes hpath hp
    exact hlong hextension ((hwrites q hq).2.2 k hk)
  · obtain ⟨extension, hextension, rfl⟩ := exists_of_mem_writes hpath hp
    exact hlong hextension (hprobes q hq)
  · obtain ⟨extension, hextension, rfl⟩ := exists_of_mem_writes hpath hp
    obtain ⟨hlength, hshort, -⟩ := hwrites q hq
    -- The directories on the way are too few parts, and what it leads to is too long.
    have hcases : k = 0 ∨ k = 1 ∨ k = (outPath.below (name ++ extension)).parts.length := by
      simp only [outPath, Path.below, List.length_append, List.length_cons, List.length_nil] at hk ⊢
      omega
    rcases hcases with rfl | rfl | rfl
    · rw [heq] at hlength
      cases hlength
    · rw [heq] at hlength
      cases hlength
    · rw [FileTree.waypoint_length] at heq
      exact hlong hextension hshort heq.symm
  · rw [eq_of_mem_probes hpath hstem hp] at heq
    exact hlong (by decide) (hwrites q hq).2.1 heq.symm

/-- A source is entangled with one that makes its directory if the name of its companion is too long. -/
theorem entangled_of_long_name (hplain : ∀ c ∈ name.toList, c ≠ '/' ∧ c ≠ '.' ∧ c ≠ '\x00')
    (hsize : 244 ≤ name.utf8ByteSize) (hsize' : name.utf8ByteSize ≤ 4000) :
    Entangled ⟨[], []⟩ lightSettings [rangeSource name, rangeSource "Probes.cs"] workTree := by
  have hne : name ≠ "" := by
    rintro rfl
    exact absurd hsize (by decide)
  obtain ⟨hpath, hstem⟩ := Path.ofText_of_plain hne fun c hc => ⟨(hplain c hc).1, (hplain c hc).2.1⟩
  have hcompanion := companion_of_plain hpath hstem
  have hcustom : ".custom.hlsl".utf8ByteSize = 12 := rfl
  have hfits : (outPath.below (name ++ ".custom.hlsl")).display.utf8ByteSize ≤ FileTree.maxPathBytes := by
    rw [display_outPath, String.utf8ByteSize_append, String.utf8ByteSize_append]
    have hout : "out/".utf8ByteSize = 4 := rfl
    have hmax : FileTree.maxPathBytes = 4095 := rfl
    omega
  have hlong : (name ++ ".custom.hlsl").utf8ByteSize > FileTree.maxNameBytes := by
    rw [String.utf8ByteSize_append]
    have hmax : FileTree.maxNameBytes = 255 := rfl
    omega
  have hplan : (SourceProduct.plan ⟨[], []⟩ lightSettings true (rangeSource name)).isOk = true := by
    simp only [SourceProduct.plan, rangeSource, hpath]
    rfl
  refine entangled_of_produce wellFormed_workTree (keepsApart_of_long_name hpath hstem (by omega)) ?_
  refine produce_ne_of_long_name hplan (List.cons_ne_nil _ _) ?_ ?_ ?_
  · rw [hcompanion, Filing.IsNameable, display_outPath, String.toList_append, String.toList_append]
    have hname : '\x00' ∉ name.toList := fun hmem => (hplain _ hmem).2.2 rfl
    simp [hname]
  · rw [hcompanion]
    refine FileTree.node_of_locate_error ?_
    have hshort : ((produce ⟨[], []⟩ lightSettings false (rangeSource "Probes.cs")).runOn workTree).2.locate
        (outPath.below "Lights") = .ok ["work", "out", "Lights"] := eq_ok_of_toOption locations_of_probes.2.2
    exact locate_below_of_long hshort (append_ne_ups (by decide)) hfits hlong
  · rw [hcompanion]
    refine FileTree.node_of_locate_error ?_
    rw [FileTree.locate_below, if_neg (Nat.not_lt.mpr hfits)]
    rfl

end

/-- The tree with a directory for the files and a companion in it. -/
def companionTree : FileTree :=
  (workTree.put ["work", "out"] (.directory FileNode.directoryMode)).put
    ["work", "out", "Lights.custom.hlsl"] (.file ⟨#[]⟩ FileNode.fileMode)

theorem wellFormed_companionTree : companionTree.WellFormed := by
  have hfree : ∀ {t : FileTree} {loc : Location}, t.find? loc = none → ¬t.HasDirectory loc :=
    FileTree.not_hasDirectory_of_none
  refine (FileTree.edits_put _ _ (by decide)).wellFormed ?_ (hfree rfl) ⟨_, rfl⟩
  exact (FileTree.edits_put _ _ (by decide)).wellFormed wellFormed_workTree (hfree rfl) ⟨_, rfl⟩

/-- Sources that keep apart are entangled by a directory that has the name of a companion, by a directory on the
way to a companion that is left again, and by a directory that has to be there before a name is found to be too
long. -/
theorem entangled_of_directories :
    Entangled ⟨[], []⟩ lightSettings
        [rangeSource "Lights.cs", rangeSource "Lights.custom.hlsl/Probes.cs"] workTree
      ∧ Entangled ⟨[], []⟩ lightSettings
        [rangeSource "more/../Lights.cs", rangeSource "more/Probes.cs"] companionTree
      ∧ Entangled ⟨[], []⟩ lightSettings
        [rangeSource (String.ofList (List.replicate 250 'x')), rangeSource "Probes.cs"] workTree := by
  refine ⟨?_, ?_, ?_⟩
  · refine entangled_of_produce wellFormed_workTree (by decide +kernel) ?_
    exact produce_ne_of_companion (by decide +kernel) (List.cons_ne_nil _ _) (by decide +kernel)
      (by decide +kernel) (by decide +kernel)
  · refine entangled_of_produce wellFormed_companionTree (by decide +kernel) ?_
    exact produce_ne_of_companion (by decide +kernel) (List.cons_ne_nil _ _) (by decide +kernel)
      (by decide +kernel) (by decide +kernel)
  · have hsize : (String.ofList (List.replicate 250 'x')).utf8ByteSize = 250 := by
      rw [String.utf8ByteSize_ofList]
      decide +kernel
    refine entangled_of_long_name (fun c hc => ?_) (by omega) (by omega)
    rw [String.toList_ofList] at hc
    rw [List.eq_of_mem_replicate hc]
    decide

end ShaderRecords

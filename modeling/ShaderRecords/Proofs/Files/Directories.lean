/-
ShaderRecords.Proofs.Files.Directories — directories made while others make them too.

A program that writes files shares the tree with others. `FileTree.Shares` relates the tree that it meets with
the one it would have alone: the first has grown out of the second by the others' work. When it makes the
directories that lead to its files, some of them may be there already in the shared tree and not in its own;
`tandem_ensureDirectories` says that the outcome is the same, and that the trees stay related. After that the
two agree about every file in the directory (`agrees_below`), so `tandem_deliver_below` can follow the program
command by command.
-/
import ShaderRecords.Proofs.Files.Growth

namespace ShaderRecords

/-! ## Making one directory -/

namespace Filing

variable {t : FileTree} {p : Path} {loc : Location} {n : FileNode} {cause : FileCause}

/-- Whether a path can be given to the file system. -/
def IsNameable (p : Path) : Prop :=
  p.display.toList.contains '\x00' = false

theorem runOn_attempt_of_not_nameable {c : FileCommand} (h : ¬IsNameable c.path) :
    (attempt c).runOn t = (.error .wrongContent, t) := by
  rw [runOn_attempt, if_pos]
  simpa [IsNameable] using h

theorem isNameable_of_below {d : Path} {name : String} (h : IsNameable (d.below name)) : IsNameable d := by
  unfold IsNameable at h ⊢
  rcases d.display_below name with hpoint | ⟨rest, hrest⟩
  · rw [hpoint]
    decide
  · rw [hrest, String.toList_append] at h
    simp only [List.contains_eq_mem, decide_eq_false_iff_not, List.mem_append, not_or] at h ⊢
    exact h.1

theorem runOn_attempt_of_ok {c : FileCommand} {x : c.Result} {t' : FileTree} (h : IsNameable c.path)
    (hc : t.execute c = .ok (x, t')) : (attempt c).runOn t = (.ok (.ok x), t') := by
  rw [runOn_attempt, h, hc]
  rfl

theorem runOn_attempt_of_error {c : FileCommand} (h : IsNameable c.path) (hc : t.execute c = .error cause) :
    (attempt c).runOn t = (.ok (.error cause), t) := by
  rw [runOn_attempt, h, hc]
  rfl

/-- Looking at a path tells what is found there. -/
theorem runOn_attempt_status (h : IsNameable p) (t : FileTree) :
    (attempt (.status p)).runOn t = (.ok ((fun found => found.2.status) <$> t.node p), t) := by
  cases hnode : t.node p with
  | ok found =>
    refine runOn_attempt_of_ok (c := .status p) h ?_
    rw [FileTree.execute, hnode]
    rfl
  | error cause =>
    refine runOn_attempt_of_error (c := .status p) h ?_
    rw [FileTree.execute, hnode]
    rfl

/-- Whether there is a directory is told by what is found, and nothing found is no directory. -/
theorem runOn_isDirectory_of_ok (h : IsNameable p) (hnode : t.node p = .ok (loc, n)) :
    (isDirectory p).runOn t = (.ok n.isDirectory, t) := by
  unfold isDirectory
  rw [runOn_bind, runOn_attempt_status h, hnode]
  rfl

theorem runOn_isDirectory_of_error (h : IsNameable p) (hnode : t.node p = .error cause) :
    (isDirectory p).runOn t =
      (if cause = .notFound ∨ cause = .notDirectory then .ok false
        else .error (.file ⟨cause, p.display⟩), t) := by
  unfold isDirectory
  rw [runOn_bind, runOn_attempt_status h, hnode]
  cases cause <;> rfl

theorem runOn_isThere_of_not_nameable (h : ¬IsNameable p) : (isThere p).runOn t = (.ok false, t) := by
  unfold isThere
  rw [if_pos (by simpa [IsNameable] using h)]
  rfl

theorem runOn_isThere_of_ok (h : IsNameable p) (hnode : t.node p = .ok (loc, n)) :
    (isThere p).runOn t = (.ok true, t) := by
  unfold isThere
  rw [if_neg (by simpa [IsNameable] using h), runOn_bind, runOn_attempt_status h, hnode]
  rfl

theorem runOn_isThere_of_error (h : IsNameable p) (hnode : t.node p = .error cause) :
    (isThere p).runOn t =
      (if cause = .notFound ∨ cause = .notDirectory then .ok false
        else .error (.file ⟨cause, p.display⟩), t) := by
  unfold isThere
  rw [if_neg (by simpa [IsNameable] using h), runOn_bind, runOn_attempt_status h, hnode]
  cases cause <;> rfl

theorem runOn_ensureDirectory_of_not_nameable (h : ¬IsNameable p) :
    (ensureDirectory p).runOn t = (.error .wrongContent, t) := by
  unfold ensureDirectory
  rw [runOn_bind, runOn_attempt_of_not_nameable (c := .makeDirectory p) h]

/-- What happens after a directory could not be made. -/
theorem runOn_ensureDirectory_of_error (h : IsNameable p)
    (hmake : t.execute (.makeDirectory p) = .error cause)
    (hnode : t.node p = .error cause ∨ t.node p = .error .notFound) :
    (ensureDirectory p).runOn t = (.error (.file ⟨cause, p.display⟩), t) := by
  unfold ensureDirectory
  rw [runOn_bind, runOn_attempt_of_error (c := .makeDirectory p) h hmake]
  by_cases hmissing : cause = .notFound
  · subst hmissing
    rfl
  · have hgiven : (do if ! (← isDirectory p) then throw (.file ⟨cause, p.display⟩) : Filing Unit).runOn t
        = (.error (.file ⟨cause, p.display⟩), t) := by
      rw [runOn_bind]
      rcases hnode with hnode | hnode
      · rw [runOn_isDirectory_of_error h hnode]
        cases cause <;> rfl
      · rw [runOn_isDirectory_of_error h hnode]
        rfl
    rw [← hgiven]
    cases cause <;> first | exact absurd rfl hmissing | rfl

/-- A path that cannot be followed has no directory made at its end. -/
theorem runOn_ensureDirectory_of_locate_error (h : IsNameable p) (hlocate : t.locate p = .error cause) :
    (ensureDirectory p).runOn t = (.error (.file ⟨cause, p.display⟩), t) := by
  refine runOn_ensureDirectory_of_error h ?_ (.inl (FileTree.node_of_locate_error hlocate))
  rw [FileTree.execute, hlocate]
  rfl

/-- What is there already has to be a directory. -/
theorem runOn_ensureDirectory_of_some (h : IsNameable p) (hlocate : t.locate p = .ok loc)
    (hfind : t.find? loc = some n) : (ensureDirectory p).runOn t =
      (if n.isDirectory then .ok () else .error (.file ⟨.alreadyExists, p.display⟩), t) := by
  have hmake : t.execute (.makeDirectory p) = .error .alreadyExists := by
    rw [FileTree.execute, hlocate, ok_bind, hfind]
    rfl
  have hnode : t.node p = .ok (loc, n) := by
    rw [FileTree.node, hlocate, ok_bind, hfind]
    rfl
  unfold ensureDirectory
  rw [runOn_bind, runOn_attempt_of_error (c := .makeDirectory p) h hmake]
  dsimp only
  rw [runOn_bind, runOn_isDirectory_of_ok h hnode]
  cases n <;> rfl

/-- A missing directory is made if the one that it is in allows it. -/
theorem runOn_ensureDirectory_of_none (h : IsNameable p) (hlocate : t.locate p = .ok loc)
    (hnone : t.find? loc = none) : (ensureDirectory p).runOn t =
      match t.grantChange loc with
      | .ok _ => (.ok (), t.put loc (.directory FileNode.directoryMode))
      | .error cause => (.error (.file ⟨cause, p.display⟩), t) := by
  cases hgrant : t.grantChange loc with
  | error cause =>
    refine runOn_ensureDirectory_of_error h ?_ (.inr (FileTree.node_of_none hlocate hnone))
    rw [FileTree.execute, hlocate, ok_bind, hnone]
    show (t.grantChange loc >>= _) = _
    rw [hgrant]
    rfl
  | ok _ =>
    have hmake : t.execute (.makeDirectory p)
        = .ok ((), t.put loc (.directory FileNode.directoryMode)) := by
      rw [FileTree.execute, hlocate, ok_bind, hnone]
      show (t.grantChange loc >>= _) = _
      rw [hgrant]
      rfl
    unfold ensureDirectory
    rw [runOn_bind, runOn_attempt_of_ok (c := .makeDirectory p) h hmake]
    rfl

/-! ## Making directories on a way -/

/-- Nothing is told to be missing but a directory on the way. -/
theorem ne_notFound_of_makeDirectory (h : t.locate p ≠ .error .notFound)
    (hmake : t.execute (.makeDirectory p) = .error cause) : cause ≠ .notFound := by
  rintro rfl
  cases hlocate : t.locate p with
  | error cause =>
    rw [FileTree.execute, hlocate] at hmake
    obtain rfl := Except.error.inj hmake
    exact h hlocate
  | ok loc =>
    rw [FileTree.execute, hlocate, ok_bind] at hmake
    cases hfind : t.find? loc with
    | some n =>
      rw [hfind] at hmake
      cases hmake
    | none =>
      rw [hfind] at hmake
      rcases bind_eq_error_iff.mp hmake with hgrant | ⟨_, -, hmade⟩
      · unfold FileTree.grantChange FileTree.grant at hgrant
        split at hgrant <;> cases hgrant
      · cases hmade

variable {root last : String} {before : List String}

/-- The directories on a way are made from the last one on, as far as they are missing. -/
theorem ensureDirectories_cons (hp : p = Path.below ⟨root, before.reverse⟩ last) :
    ensureDirectories root (last :: before) = (do
      match ← attempt (.makeDirectory p) with
      | .ok _ => return ()
      | .error .notFound =>
        ensureDirectories root before
        ensureDirectory p
      | .error cause => if ! (← isDirectory p) then throw (.file ⟨cause, p.display⟩)) := by
  obtain rfl : p = ⟨root, (last :: before).reverse⟩ := by
    rw [hp, List.reverse_cons]
    rfl
  rfl

theorem runOn_ensureDirectories_of_not_nameable (hp : p = Path.below ⟨root, before.reverse⟩ last)
    (h : ¬IsNameable p) : (ensureDirectories root (last :: before)).runOn t = (.error .wrongContent, t) := by
  rw [ensureDirectories_cons hp, runOn_bind, runOn_attempt_of_not_nameable (c := .makeDirectory p) h]

/-- Where the way to the last directory is there, only that directory is made. -/
theorem runOn_ensureDirectories_of_located (hp : p = Path.below ⟨root, before.reverse⟩ last)
    (h : t.locate p ≠ .error .notFound) :
    (ensureDirectories root (last :: before)).runOn t = (ensureDirectory p).runOn t := by
  rw [ensureDirectories_cons hp, ensureDirectory, runOn_bind, runOn_bind]
  by_cases hname : IsNameable p
  · cases hmake : t.execute (.makeDirectory p) with
    | ok made => rw [runOn_attempt_of_ok (c := .makeDirectory p) hname hmake]
    | error cause =>
      rw [runOn_attempt_of_error (c := .makeDirectory p) hname hmake]
      have hcause := ne_notFound_of_makeDirectory h hmake
      cases cause <;> first | exact absurd rfl hcause | rfl
  · rw [runOn_attempt_of_not_nameable (c := .makeDirectory p) hname]

/-- Where a directory on the way is missing, the way is made first. -/
theorem runOn_ensureDirectories_of_missing (hp : p = Path.below ⟨root, before.reverse⟩ last)
    (hname : IsNameable p) (h : t.locate p = .error .notFound) :
    (ensureDirectories root (last :: before)).runOn t
      = (ensureDirectories root before >>= fun _ => ensureDirectory p).runOn t := by
  have hmake : t.execute (.makeDirectory p) = .error .notFound := by
    rw [FileTree.execute, h]
    rfl
  rw [ensureDirectories_cons hp, runOn_bind, runOn_attempt_of_error (c := .makeDirectory p) hname hmake]

/-- Nothing is made where the directory is there. -/
theorem runOn_ensureDirectories_of_reaches {d : Path} (hname : IsNameable d) (h : t.Reaches d) :
    (ensureDirectories d.root d.parts.reverse).runOn t = (.ok (), t) := by
  obtain ⟨loc, hlocate, mode, hmode⟩ := h
  have hthere : (ensureDirectory d).runOn t = (.ok (), t) := runOn_ensureDirectory_of_some hname hlocate hmode
  rcases List.eq_nil_or_concat' d.parts with hparts | ⟨before, last, hparts⟩
  · have hd : d = ⟨d.root, []⟩ := by rw [← hparts]
    rw [hparts]
    show (ensureDirectory ⟨d.root, []⟩).runOn t = _
    rw [← hd, hthere]
  · have hd : d = Path.below ⟨d.root, before.reverse.reverse⟩ last := by
      rw [List.reverse_reverse, Path.below, ← hparts]
    rw [hparts, List.reverse_concat, runOn_ensureDirectories_of_located hd (by rw [hlocate]; simp), hthere]

/-- Wherever the way is missing or is there to its end, it is made before the last directory. -/
theorem runOn_ensureDirectories_eq_bind {d : Path} (hname : IsNameable (d.below last))
    (h : t.locate (d.below last) = .error .notFound ∨ ∃ loc, t.locate (d.below last) = .ok loc) :
    (ensureDirectories d.root (last :: d.parts.reverse)).runOn t
      = (ensureDirectories d.root d.parts.reverse >>= fun _ => ensureDirectory (d.below last)).runOn t := by
  have hpath : d.below last = Path.below ⟨d.root, d.parts.reverse.reverse⟩ last := by rw [List.reverse_reverse]
  rcases h with hmissing | ⟨loc, hlocate⟩
  · exact runOn_ensureDirectories_of_missing hpath hname hmissing
  · rw [runOn_ensureDirectories_of_located hpath (by rw [hlocate]; simp), runOn_bind,
      runOn_ensureDirectories_of_reaches (isNameable_of_below hname) (FileTree.reaches_of_locate_below hlocate)]

/-- A way that cannot be followed for another reason than a missing directory is not made. -/
theorem runOn_ensureDirectories_of_locate_error {d : Path} (hname : IsNameable (d.below last))
    (h : t.locate (d.below last) = .error cause) (hcause : cause ≠ .notFound) :
    (ensureDirectories d.root (last :: d.parts.reverse)).runOn t
      = (.error (.file ⟨cause, (d.below last).display⟩), t) := by
  have hpath : d.below last = Path.below ⟨d.root, d.parts.reverse.reverse⟩ last := by rw [List.reverse_reverse]
  rw [runOn_ensureDirectories_of_located hpath (by rw [h]; simpa using hcause),
    runOn_ensureDirectory_of_locate_error hname h]

end Filing

/-! ## Trees that are shared -/

/-- The locations that a program edits files and makes directories at, and those at which others do. -/
structure Division where
  files : Set Location
  dirs : Set Location
  otherFiles : Set Location
  otherDirs : Set Location
  apart : ∀ loc ∈ files, loc ∉ otherFiles ∧ loc ∉ otherDirs

namespace FileTree

/-- What relates the shared tree `t`, which has grown out of `base` by the program's own work, with the tree
`u` that the program would have alone: `t` has grown out of `u` by the work of others, and what it has that
`base` has not is in `u` too. -/
structure Shares (division : Division) (base t u : FileTree) : Prop where
  alone : u.WellFormed
  others : u.Grows division.otherFiles division.otherDirs t
  own : base.Grows division.files division.dirs t
  made : ∀ loc, t.find? loc = base.find? loc ∨ t.find? loc = u.find? loc

/-- Whether a directory is there in both trees. -/
structure Reached (division : Division) (base : FileTree) (d : Path) (t u : FileTree) : Prop where
  shares : Shares division base t u
  left : t.Reaches d
  right : u.Reaches d

variable {division : Division} {base t u t' u' : FileTree} {d p : Path} {name : String} {loc : Location}

theorem Shares.startOf_eq (h : Shares division base t u) (p : Path) :
    t.startOf p = base.startOf p ∧ u.startOf p = base.startOf p := by
  have ht := startOf_congr h.own.here_eq p
  exact ⟨ht, (startOf_congr h.others.here_eq p).symm.trans ht⟩

/-- Whether the way to a directory is clear of the work of others. -/
def ClearTo (division : Division) (base : FileTree) (d : Path) : Prop :=
  IsClear division.otherFiles division.otherDirs (base.startOf d) d.parts

theorem ClearTo.notTaken (h : ClearTo division base d) : base.locationOf d ∉ division.otherFiles :=
  IsClear.notTaken h d.parts [] (List.append_nil _).symm

theorem ClearTo.init (h : ClearTo division base (d.below name)) : ClearTo division base d :=
  IsClear.init h

/-- A directory that is there in both trees is the same in both. -/
theorem Reached.exists_directory (h : Reached division base d t u) (hclear : ClearTo division base d) :
    ∃ mode, t.locate d = .ok (base.locationOf d) ∧ u.locate d = .ok (base.locationOf d)
      ∧ t.find? (base.locationOf d) = some (.directory mode)
      ∧ u.find? (base.locationOf d) = some (.directory mode) := by
  obtain ⟨hshares, ⟨loc, hlocate, mode, hmode⟩, loc', hlocate', mode', hmode'⟩ := h
  obtain ⟨ht, hu⟩ := hshares.startOf_eq d
  obtain rfl : loc = base.locationOf d := by rw [locate_eq_ok hlocate, locationOf, ht, locationOf]
  obtain rfl : loc' = base.locationOf d := by rw [locate_eq_ok hlocate', locationOf, hu, locationOf]
  refine ⟨mode, hlocate, hlocate', hmode, ?_⟩
  rcases hshares.others.find?_eq_or _ hclear.notTaken with heq | ⟨-, hnone, -⟩
  · rw [← heq, hmode]
  · rw [hnone] at hmode'
    cases hmode'

/-- A path in a directory leads to a place in that directory, if it is not the one above. -/
theorem locate_below_of_locate (h : t.locate d = .ok loc) : t.locate (d.below name) =
    if (d.below name).display.utf8ByteSize > maxPathBytes then .error .nameTooLong else t.enter loc name := by
  rw [locate_below]
  split
  · rfl
  · rw [locate_eq] at h
    split at h
    · cases h
    · rw [h]
      rfl

theorem Reached.locate_below_eq (h : Reached division base d t u) (hclear : ClearTo division base d)
    (name : String) : t.locate (d.below name) = u.locate (d.below name) := by
  obtain ⟨mode, ht, hu, hmode, hmode'⟩ := h.exists_directory hclear
  rw [locate_below_of_locate ht, locate_below_of_locate hu, enter_congr (hmode.trans hmode'.symm)]

/-- Trees are shared as before when the same is done to both. -/
theorem Shares.edits {n? : Option FileNode} (h : Shares division base t u) (ht : t.Edits loc n? t')
    (hu : u.Edits loc n? u') (hgrows : t.Grows division.files division.dirs t') (hu' : u'.WellFormed) :
    Shares division base t' u' where
  alone := hu'
  others := h.others.edits hu ht hgrows.wellFormed hgrows.directory
  own := h.own.trans hgrows
  made other := by
    rw [ht.find?_eq, hu.find?_eq]
    split
    · exact .inr rfl
    · exact h.made other

/-- A directory that is made can be reached. -/
theorem reaches_makeDirectory (ht : t.WellFormed) (hlocate : t.locate p = .ok loc) (hnone : t.find? loc = none)
    (hgrant : t.grantChange loc = .ok ()) : (t.put loc (.directory FileNode.directoryMode)).Reaches p := by
  have hgrows : t.Grows ∅ Set.univ _ :=
    grows_makeDirectory ht (Set.mem_univ loc) hnone (ht.hasDirectory_parent hlocate) hgrant
  refine ⟨loc, hgrows.locate hlocate, FileNode.directoryMode, ?_⟩
  rw [(edits_put t _ (ne_nil_of_none hnone)).find?_eq, if_pos rfl]

/-- A directory that both trees are missing is made in both. -/
theorem Shares.makeDirectory (h : Shares division base t u) (hdirs : loc ∈ division.dirs)
    (hlocate : t.locate p = .ok loc) (hlocate' : u.locate p = .ok loc) (hnone : t.find? loc = none)
    (hnone' : u.find? loc = none) (hgrant : t.grantChange loc = .ok ()) (hgrant' : u.grantChange loc = .ok ()) :
    Reached division base p (t.put loc (.directory FileNode.directoryMode))
      (u.put loc (.directory FileNode.directoryMode)) where
  shares := by
    have hne := ne_nil_of_none hnone
    have hgrows : t.Grows division.files division.dirs _ := grows_makeDirectory h.others.wellFormed hdirs hnone
      (h.others.wellFormed.hasDirectory_parent hlocate) hgrant
    have halone := (edits_put u (.directory FileNode.directoryMode) hne).wellFormed h.alone
      (not_hasDirectory_of_none hnone') (h.alone.hasDirectory_parent hlocate')
    exact h.edits (edits_put t _ hne) (edits_put u _ hne) hgrows halone
  left := reaches_makeDirectory h.others.wellFormed hlocate hnone hgrant
  right := reaches_makeDirectory h.alone hlocate' hnone' hgrant'

/-- A directory that others have made already is made in the other tree. -/
theorem Shares.makeDirectory_alone (h : Shares division base t u) (hlocate : t.locate p = .ok loc)
    (hlocate' : u.locate p = .ok loc) (hmade : t.find? loc = some (.directory FileNode.directoryMode))
    (hnone : u.find? loc = none) (hgrant : u.grantChange loc = .ok ()) :
    Reached division base p t (u.put loc (.directory FileNode.directoryMode)) where
  shares := by
    have hedits := edits_put u (.directory FileNode.directoryMode) (ne_nil_of_none hnone)
    refine ⟨hedits.wellFormed h.alone (not_hasDirectory_of_none hnone) (h.alone.hasDirectory_parent hlocate'),
      h.others.makeDirectory hnone hmade, h.own, fun other => ?_⟩
    rw [hedits.find?_eq]
    split
    next heq => exact .inr (heq ▸ hmade)
    next => exact h.made other
  left := ⟨loc, hlocate, _, hmade⟩
  right := reaches_makeDirectory h.alone hlocate' hnone hgrant

end FileTree

open FileTree

variable {division : Division} {base : FileTree} {d p : Path} {name : String}

/-- A directory in one that both trees have is made, or found, in tandem. -/
theorem tandem_ensureDirectory_below (hclear : ClearTo division base (d.below name))
    (hdirs : base.locationOf (d.below name) ∈ division.dirs) :
    Tandem (Reached division base d) (Filing.ensureDirectory (d.below name))
      (Reached division base (d.below name)) (Shares division base) := by
  intro t u h
  by_cases hname : Filing.IsNameable (d.below name)
  · have hlocates := h.locate_below_eq hclear.init name
    cases hlocate : t.locate (d.below name) with
    | error cause =>
      exact ⟨_, t, u, Filing.runOn_ensureDirectory_of_locate_error hname hlocate,
        Filing.runOn_ensureDirectory_of_locate_error hname (hlocates ▸ hlocate), h.shares⟩
    | ok loc =>
      have hlocate' : u.locate (d.below name) = .ok loc := hlocates ▸ hlocate
      obtain rfl : loc = base.locationOf (d.below name) := by
        rw [locate_eq_ok hlocate, locationOf, (h.shares.startOf_eq _).1, locationOf]
      have hparent := h.shares.alone.hasDirectory_parent hlocate'
      have hgrants := grantChange_eq hparent h.shares.others.directory
      rcases h.shares.others.find?_eq_or _ hclear.notTaken with heq | ⟨-, hnone, hmade, hgrant⟩
      · cases hfind : u.find? (base.locationOf (d.below name)) with
        | some n =>
          refine ⟨_, t, u, Filing.runOn_ensureDirectory_of_some hname hlocate (heq.trans hfind),
            Filing.runOn_ensureDirectory_of_some hname hlocate' hfind, ?_⟩
          cases n with
          | directory mode =>
            exact ⟨h.shares, ⟨_, hlocate, mode, heq.trans hfind⟩, _, hlocate', mode, hfind⟩
          | file bytes mode => exact h.shares
        | none =>
          have ht := Filing.runOn_ensureDirectory_of_none hname hlocate (heq.trans hfind)
          have hu := Filing.runOn_ensureDirectory_of_none hname hlocate' hfind
          cases hgrant : u.grantChange (base.locationOf (d.below name)) with
          | error cause =>
            rw [hgrants, hgrant] at ht
            rw [hgrant] at hu
            exact ⟨_, t, u, ht, hu, h.shares⟩
          | ok _ =>
            rw [hgrants, hgrant] at ht
            rw [hgrant] at hu
            exact ⟨_, _, _, ht, hu, h.shares.makeDirectory hdirs hlocate hlocate' (heq.trans hfind) hfind
              (hgrants.trans hgrant) hgrant⟩
      · have hu := Filing.runOn_ensureDirectory_of_none hname hlocate' hnone
        rw [← hgrants, hgrant] at hu
        exact ⟨_, _, _, Filing.runOn_ensureDirectory_of_some hname hlocate hmade, hu,
          h.shares.makeDirectory_alone hlocate hlocate' hmade hnone (hgrants.symm.trans hgrant)⟩
  · exact ⟨_, t, u, Filing.runOn_ensureDirectory_of_not_nameable hname,
      Filing.runOn_ensureDirectory_of_not_nameable hname, h.shares⟩

/-- Whether a program may make all directories on the way to one. -/
def MayMake (division : Division) (base : FileTree) (d : Path) : Prop :=
  ∀ before rest, d.parts = before ++ rest → (base.startOf d).after before ∈ division.dirs

theorem MayMake.init (h : MayMake division base (d.below name)) : MayMake division base d :=
  fun before rest hparts => h before (rest ++ [name]) (by rw [Path.below, hparts, List.append_assoc])

/-- The directory that all ways start at is there. -/
theorem tandem_ensureDirectory_start (hparts : d.parts = []) :
    Tandem (Shares division base) (Filing.ensureDirectory d) (Reached division base d)
      (Shares division base) := by
  intro t u h
  by_cases hname : Filing.IsNameable d
  · have hlocate : ∀ v : FileTree, v.locate d =
        if d.display.utf8ByteSize > maxPathBytes then .error .nameTooLong else .ok (v.startOf d) := by
      intro v
      rw [locate_eq, hparts]
      rfl
    have ht := hlocate t
    have hu := hlocate u
    split at ht
    next hlong =>
      rw [if_pos hlong] at hu
      exact ⟨_, t, u, Filing.runOn_ensureDirectory_of_locate_error hname ht,
        Filing.runOn_ensureDirectory_of_locate_error hname hu, h⟩
    next hshort =>
      rw [if_neg hshort] at hu
      obtain ⟨mode, hmode⟩ := h.others.wellFormed.hasDirectory_start d
      obtain ⟨mode', hmode'⟩ := h.alone.hasDirectory_start d
      exact ⟨.ok (), t, u, Filing.runOn_ensureDirectory_of_some hname ht hmode,
        Filing.runOn_ensureDirectory_of_some hname hu hmode', h, ⟨_, ht, mode, hmode⟩, _, hu, mode', hmode'⟩
  · exact ⟨_, t, u, Filing.runOn_ensureDirectory_of_not_nameable hname,
      Filing.runOn_ensureDirectory_of_not_nameable hname, h⟩

/-- The directories on a clear way are made in tandem, whoever has made some of them already. -/
theorem tandem_ensureDirectories (hclear : ClearTo division base d) (hmay : MayMake division base d) :
    Tandem (Shares division base) (Filing.ensureDirectories d.root d.parts.reverse) (Reached division base d)
      (Shares division base) := by
  generalize hparts : d.parts.reverse = parts
  induction parts generalizing d with
  | nil =>
    have hnil : d.parts = [] := List.reverse_eq_nil_iff.mp hparts
    have hd : d = ⟨d.root, []⟩ := by rw [← hnil]
    have hstart : Tandem (Shares division base) (Filing.ensureDirectory d) (Reached division base d)
        (Shares division base) := tandem_ensureDirectory_start hnil
    rw [hd] at hstart ⊢
    exact hstart
  | cons last before ih =>
    obtain ⟨d', rfl, rfl⟩ : ∃ d' : Path, d = d'.below last ∧ before = d'.parts.reverse := by
      refine ⟨⟨d.root, before.reverse⟩, ?_, (List.reverse_reverse before).symm⟩
      rw [Path.below, ← List.reverse_cons, ← hparts, List.reverse_reverse]
    have hpath : d'.below last = Path.below ⟨d'.root, d'.parts.reverse.reverse⟩ last := by
      rw [List.reverse_reverse]
    have hway := (ih hclear.init hmay.init rfl).bind fun _ =>
      tandem_ensureDirectory_below hclear (hmay _ [] (List.append_nil _).symm)
    intro t u h
    by_cases hname : Filing.IsNameable (d'.below last)
    · -- Either the way is the same in both trees, or the other one has more of it than the program's own.
      have hclear' : IsClear division.otherFiles division.otherDirs (u.startOf (d'.below last))
          (d'.below last).parts := (h.startOf_eq _).2 ▸ hclear
      obtain ⟨result, t', u', ht, hu, hresult⟩ := hway t u h
      have hrun := fun {v} => Filing.runOn_ensureDirectories_eq_bind (t := v) hname
      rcases h.others.locate_eq_or h.alone hclear' with hsame | ⟨hmissing, hmore⟩
      · cases hlocate : u.locate (d'.below last) with
        | ok loc =>
          exact ⟨result, t', u', (hrun (.inr ⟨loc, hsame.trans hlocate⟩)).trans ht,
            (hrun (.inr ⟨loc, hlocate⟩)).trans hu, hresult⟩
        | error cause =>
          by_cases hcause : cause = .notFound
          · subst hcause
            exact ⟨result, t', u', (hrun (.inl (hsame.trans hlocate))).trans ht, (hrun (.inl hlocate)).trans hu,
              hresult⟩
          · have ht := Filing.runOn_ensureDirectories_of_locate_error hname (hsame.trans hlocate) hcause
            have hu := Filing.runOn_ensureDirectories_of_locate_error hname hlocate hcause
            exact ⟨_, t, u, ht, hu, h⟩
      · exact ⟨result, t', u', (hrun hmore).trans ht, (hrun (.inl hmissing)).trans hu, hresult⟩
    · exact ⟨_, t, u, Filing.runOn_ensureDirectories_of_not_nameable hpath hname,
        Filing.runOn_ensureDirectories_of_not_nameable hpath hname, h⟩

/-! ## Writing files -/

/-- In a directory that both trees have, they agree about the files that only the program works on. -/
theorem agrees_below (hclear : ClearTo division base d) (hups : name ≠ "..")
    (hfile : base.locationOf (d.below name) ∈ division.files) :
    Agrees (Reached division base d) division.files (d.below name) where
  wellFormed t u h := ⟨h.shares.others.wellFormed, h.shares.alone⟩
  locate_eq t u h := h.locate_below_eq hclear name
  mem t u h loc hlocate := by
    rw [locate_eq_ok hlocate, locationOf, (h.shares.startOf_eq _).1]
    exact hfile
  find?_eq t u h loc hloc := by
    obtain ⟨hnot, hnot'⟩ := division.apart loc hloc
    exact (h.shares.others.find?_eq_or loc hnot).resolve_right fun hmade => hnot' hmade.1
  parent_eq t u h loc hlocate := by
    obtain ⟨mode, -, -, hmode, hmode'⟩ := h.exists_directory hclear
    have hloc : loc = base.locationOf d ++ [name] := by
      rw [locate_eq_ok hlocate, locationOf, (h.shares.startOf_eq _).1, Path.below, Location.after_append,
        Location.after_singleton hups]
      rfl
    rw [hloc, List.dropLast_concat, hmode, hmode']
  edit t u h loc hloc hfree ht hu n? t' u' _ hedits hedits' := by
    obtain ⟨hnot, hnot'⟩ := division.apart loc hloc
    have hfree' : ¬u.HasDirectory loc := by
      rintro ⟨mode, hmode⟩
      exact hfree ⟨mode, h.shares.others.directory loc mode hmode⟩
    have hgrows : t.Grows division.files division.dirs t' :=
      hedits.grows h.shares.others.wellFormed hloc hfree ht
    have hgrows' : u.Grows division.files division.dirs u' := hedits'.grows h.shares.alone hloc hfree' hu
    exact ⟨h.shares.edits hedits hedits' hgrows hgrows'.wellFormed, hgrows.reaches h.left,
      hgrows'.reaches h.right⟩

/-- A file whose name is too long is skipped, also when its directory is still to be made. -/
theorem tandem_deliver_of_long_name (hclear : ClearTo division base d) (hmay : MayMake division base d)
    (hname : Filing.IsNameable (d.below name)) {t u : FileTree} (h : Shares division base t u)
    (hnode : u.node (d.below name) = .error .notFound)
    (hlong : t.locate (d.below name) = .error .nameTooLong) (hreaches : t.Reaches d) (text : String) :
    ∃ result t' u', (Fate.deliver (d.below name) text).runOn t = (result, t')
      ∧ (Fate.deliver (d.below name) text).runOn u = (result, u') ∧ Shares division base t' u' := by
  obtain ⟨result, t', u', ht, hu, hresult⟩ := tandem_ensureDirectories hclear hmay t u h
  rw [Filing.runOn_ensureDirectories_of_reaches (Filing.isNameable_of_below hname) hreaches] at ht
  obtain ⟨rfl, rfl⟩ := Prod.mk.inj ht
  have hlong' : u'.locate (d.below name) = .error .nameTooLong :=
    (hresult.locate_below_eq hclear name).symm.trans hlong
  have hthere : ∀ {v : FileTree}, v.locate (d.below name) = .error .nameTooLong →
      (Filing.isThere (d.below name)).runOn v
        = (.error (.file ⟨.nameTooLong, (d.below name).display⟩), v) := fun hv =>
    Filing.runOn_isThere_of_error hname (node_of_locate_error hv)
  have hmissing := Filing.runOn_isThere_of_error hname hnode
  have hdirs : Filing.ensureDirectories (d.below name).root (d.below name).parent.parts.reverse
      = Filing.ensureDirectories d.root d.parts.reverse := by rw [Path.parent_below]; rfl
  refine ⟨.ok (.skipped (.failed (d.below name) ⟨.nameTooLong, (d.below name).display⟩)), t, u', ?_, ?_,
    hresult.shares⟩
  · have hmayReplace : (Filing.mayReplace (d.below name)).runOn t
        = (.error (.file ⟨.nameTooLong, (d.below name).display⟩), t) := by
      unfold Filing.mayReplace
      rw [Filing.runOn_bind, hthere hlong]
    unfold Fate.deliver
    rw [Filing.runOn_tryCatch, Filing.runOn_bind, hmayReplace]
    rfl
  · have hmayReplace : (Filing.mayReplace (d.below name)).runOn u = (.ok true, u) := by
      unfold Filing.mayReplace
      rw [Filing.runOn_bind, hmissing]
      rfl
    have hreplace : (Filing.replace (d.below name) text).runOn u
        = (.error (.file ⟨.nameTooLong, (d.below name).display⟩), u') := by
      unfold Filing.replace
      rw [hdirs, Filing.runOn_bind, hu]
      dsimp only
      rw [Filing.runOn_bind, hthere hlong']
    unfold Fate.deliver
    rw [Filing.runOn_tryCatch, Filing.runOn_bind, hmayReplace]
    dsimp only
    rw [if_pos rfl, Filing.runOn_bind, hreplace]
    rfl

/-- A text is put into its file in tandem, if the way to the file is clear and only the program works on it. -/
theorem tandem_deliver_below (hclear : ClearTo division base d) (hmay : MayMake division base d)
    (hups : name ≠ "..") (hfile : base.locationOf (d.below name) ∈ division.files)
    (hdraft : base.locationOf (d.below (name ++ ".tmp")) ∈ division.files) (text : String) :
    Tandem (Shares division base) (Fate.deliver (d.below name) text) (Shares division base)
      (Shares division base) := by
  have hups' : name ++ ".tmp" ≠ ".." := append_ne_ups (by decide)
  have hdraft' : Agrees (Reached division base d) division.files (d.below name).draft := by
    rw [Path.draft, Path.sibling_eq_below, Path.parent_below, Path.name_below]
    exact agrees_below hclear hups' hdraft
  have hreplace : Tandem (Shares division base) (Filing.replace (d.below name) text) (Shares division base)
      (Shares division base) := by
    refine tandem_replace ?_ (agrees_below hclear hups hfile) hdraft' (fun _ _ h => h.shares) text
    rw [Path.parent_below]
    exact tandem_ensureDirectories hclear hmay
  intro t u h
  by_cases hname : Filing.IsNameable (d.below name)
  · have hstart := (h.startOf_eq d).2
    have hlocation : u.locationOf (d.below name) = base.locationOf (d.below name) := by
      rw [locationOf, locationOf, (h.startOf_eq (d.below name)).2]
    obtain ⟨hnot, hnot'⟩ := division.apart _ hfile
    rcases h.others.node_below_eq_or h.alone (hstart.symm ▸ hclear) hups (hlocation ▸ hnot)
      (hlocation ▸ hnot') with heq | ⟨-, -, hnode, hlong, hreaches⟩
    · have hmayReplace := tandem_mayReplace (p := d.below name)
        (R := fun t u => Shares division base t u ∧ t.node (d.below name) = u.node (d.below name))
        (alike_status fun _ _ h => h.2)
      exact tandem_deliver (hmayReplace.imp (fun _ _ h => h) (fun _ _ h => h) fun _ _ h => h.1)
        (hreplace.imp (fun _ _ h => h.1) (fun _ _ h => h) fun _ _ h => h) (fun _ _ h => h.1) t u ⟨h, heq⟩
    · obtain ⟨result, t', u', ht, hu, hresult⟩ :=
        tandem_deliver_of_long_name hclear hmay hname h hnode hlong hreaches text
      refine ⟨result, t', u', ht, hu, ?_⟩
      cases result <;> exact hresult
  · have hmayReplace : ∀ v : FileTree, (Filing.mayReplace (d.below name)).runOn v = (.ok true, v) := by
      intro v
      unfold Filing.mayReplace
      rw [Filing.runOn_bind, Filing.runOn_isThere_of_not_nameable hname]
      rfl
    exact tandem_deliver (fun t u h => ⟨.ok true, t, u, hmayReplace t, hmayReplace u, h⟩) hreplace
      (fun _ _ h => h) t u h

end ShaderRecords

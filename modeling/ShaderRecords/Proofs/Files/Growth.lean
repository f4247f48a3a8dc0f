/-
ShaderRecords.Proofs.Files.Growth — trees that others work on.

A tree grows into another (`FileTree.Grows`) when files are edited at some locations and missing directories
are made at others. Whoever looks at a path in both trees sees the same, if the path keeps away from the
edited files and if nothing turns on whether the directories are there yet (`FileTree.IsClear`): then a path
that comes to a directory that one tree is missing leads to nothing in either tree, in the one because the
directory is missing and in the other because it is empty.
-/
import ShaderRecords.Proofs.Files.Tandem

namespace ShaderRecords

namespace FileTree

variable {t t' t'' u u' : FileTree} {files files' dirs dirs' : Set Location} {loc start : Location}
  {parts : List String} {p d : Path} {name : String}

/-! ## Growth -/

/-- Whether one tree comes from another by edits of files at some locations and by making directories that
were missing at others. -/
structure Grows (files dirs : Set Location) (t t' : FileTree) : Prop where
  wellFormed : t'.WellFormed
  here_eq : t'.here = t.here
  directory : ∀ loc mode, t.find? loc = some (.directory mode) → t'.find? loc = some (.directory mode)
  find?_eq_or : ∀ loc, loc ∉ files → t'.find? loc = t.find? loc ∨
    loc ∈ dirs ∧ t.find? loc = none ∧ t'.find? loc = some (.directory FileNode.directoryMode)
      ∧ t'.grantChange loc = .ok ()

theorem WellFormed.grows (h : t.WellFormed) (files dirs : Set Location) : t.Grows files dirs t :=
  ⟨h, rfl, fun _ _ h => h, fun _ _ => .inl rfl⟩

/-- What a directory allows depends on the directory alone. -/
theorem grantChange_eq (hparent : t.HasDirectory loc.dropLast)
    (hdirectory : ∀ loc mode, t.find? loc = some (.directory mode) → t'.find? loc = some (.directory mode)) :
    t'.grantChange loc = t.grantChange loc := by
  obtain ⟨mode, hmode⟩ := hparent
  rw [grantChange, grantChange, hmode, hdirectory _ _ hmode]

theorem Grows.trans (h : t.Grows files dirs t') (h' : t'.Grows files dirs t'') : t.Grows files dirs t'' where
  wellFormed := h'.wellFormed
  here_eq := h'.here_eq.trans h.here_eq
  directory loc mode hmode := h'.directory loc mode (h.directory loc mode hmode)
  find?_eq_or loc hloc := by
    rcases h'.find?_eq_or loc hloc with heq' | ⟨hmem, hnone, hmade, hgrant⟩
    · rcases h.find?_eq_or loc hloc with heq | ⟨hmem, hnone, hmade, hgrant⟩
      · exact .inl (heq'.trans heq)
      · refine .inr ⟨hmem, hnone, heq'.trans hmade, ?_⟩
        rw [grantChange_eq (h.wellFormed.parent _ _ hmade) h'.directory, hgrant]
    · rcases h.find?_eq_or loc hloc with heq | ⟨-, -, hmade, -⟩
      · exact .inr ⟨hmem, heq.symm.trans hnone, hmade, hgrant⟩
      · rw [hnone] at hmade
        cases hmade

/-- What is edited and made may be counted among more. -/
theorem Grows.mono (h : t.Grows files dirs t') (hfiles : files ⊆ files')
    (hdirs : ∀ loc ∈ dirs, t.find? loc = none → loc ∉ files' → loc ∈ dirs') : t.Grows files' dirs' t' where
  wellFormed := h.wellFormed
  here_eq := h.here_eq
  directory := h.directory
  find?_eq_or loc hloc := by
    rcases h.find?_eq_or loc fun hmem => hloc (hfiles hmem) with heq | ⟨hmem, hnone, hmade, hgrant⟩
    · exact .inl heq
    · exact .inr ⟨hdirs loc hmem hnone hloc, hnone, hmade, hgrant⟩

/-- A tree grows by an edit of one of the files. -/
theorem Edits.grows {n? : Option FileNode} (h : t.Edits loc n? t') (ht : t.WellFormed) (hloc : loc ∈ files)
    (hfile : ¬t.HasDirectory loc) (hparent : t.HasDirectory loc.dropLast) : t.Grows files dirs t' where
  wellFormed := h.wellFormed ht hfile hparent
  here_eq := h.here_eq
  directory _ _ := h.find?_directory hfile
  find?_eq_or other hother := by
    refine .inl ?_
    rw [h.find?_eq, if_neg]
    rintro rfl
    exact hother hloc

/-- A tree grows by a directory that is made where one may be. -/
theorem grows_makeDirectory (ht : t.WellFormed) (hloc : loc ∈ dirs) (hnone : t.find? loc = none)
    (hparent : t.HasDirectory loc.dropLast) (hgrant : t.grantChange loc = .ok ()) :
    t.Grows files dirs (t.put loc (.directory FileNode.directoryMode)) := by
  have hfree := not_hasDirectory_of_none hnone
  have hedits := edits_put t (.directory FileNode.directoryMode) (ne_nil_of_none hnone)
  refine ⟨hedits.wellFormed ht hfree hparent, rfl, fun _ _ => hedits.find?_directory hfree, fun other _ => ?_⟩
  rw [hedits.find?_eq]
  split
  next heq =>
    subst heq
    refine .inr ⟨hloc, hnone, rfl, ?_⟩
    rw [grantChange_eq hparent fun _ _ => hedits.find?_directory hfree, hgrant]
  next => exact .inl rfl

/-- What is reached stays where it is as long as the directories stay. -/
theorem locate_of_directories (hhere : t'.here = t.here)
    (hdirectory : ∀ loc mode, t.find? loc = some (.directory mode) → t'.find? loc = some (.directory mode))
    (hlocate : t.locate p = .ok loc) : t'.locate p = .ok loc := by
  have hfollow : ∀ parts start, t.follow start parts = .ok loc → t'.follow start parts = .ok loc := by
    intro parts
    induction parts with
    | nil => exact fun _ hstart => hstart
    | cons part parts ih =>
      intro start hstart
      rw [follow_cons, bind_eq_ok_iff] at hstart
      obtain ⟨next, henter, hrest⟩ := hstart
      obtain ⟨mode, hmode⟩ := (enter_eq_ok henter).2
      have hsame : t'.enter start part = t.enter start part := by
        rw [enter, enter, hmode, hdirectory _ _ hmode]
      rw [follow_cons, hsame, henter]
      exact ih next hrest
  rw [locate_eq] at hlocate
  rw [locate_eq]
  split at hlocate
  · cases hlocate
  next hdisplay =>
    rw [if_neg hdisplay, startOf_congr hhere p]
    exact hfollow _ _ hlocate

theorem Grows.locate (h : t.Grows files dirs t') (hlocate : t.locate p = .ok loc) :
    t'.locate p = .ok loc :=
  locate_of_directories h.here_eq h.directory hlocate

theorem Grows.reaches (h : t.Grows files dirs t') (hd : t.Reaches d) : t'.Reaches d := by
  obtain ⟨loc, hlocate, mode, hmode⟩ := hd
  exact ⟨loc, h.locate hlocate, mode, h.directory loc mode hmode⟩

/-- Trees grow into each other as before when the same is done to both. -/
theorem Grows.edits {n? : Option FileNode} (h : u.Grows files dirs t) (hu : u.Edits loc n? u')
    (ht : t.Edits loc n? t') (ht' : t'.WellFormed)
    (hdirectory : ∀ loc mode, t.find? loc = some (.directory mode) → t'.find? loc = some (.directory mode)) :
    u'.Grows files dirs t' where
  wellFormed := ht'
  here_eq := by rw [ht.here_eq, h.here_eq, hu.here_eq]
  directory other mode hother := by
    rw [hu.find?_eq] at hother
    rw [ht.find?_eq]
    split at hother
    next heq => rw [if_pos heq, hother]
    next heq => rw [if_neg heq, h.directory other mode hother]
  find?_eq_or other hother := by
    rw [hu.find?_eq, ht.find?_eq]
    split
    · exact .inl rfl
    · rcases h.find?_eq_or other hother with heq | ⟨hmem, hnone, hmade, hgrant⟩
      · exact .inl heq
      · refine .inr ⟨hmem, hnone, hmade, ?_⟩
        rw [grantChange_eq (h.wellFormed.parent _ _ hmade) hdirectory, hgrant]

/-- A directory that only the larger tree has may be made in the other one too. -/
theorem Grows.makeDirectory (h : u.Grows files dirs t) (hnone : u.find? loc = none)
    (hmade : t.find? loc = some (.directory FileNode.directoryMode)) :
    (u.put loc (.directory FileNode.directoryMode)).Grows files dirs t := by
  have hedits := edits_put u (.directory FileNode.directoryMode) (ne_nil_of_none hnone)
  refine ⟨h.wellFormed, h.here_eq, fun other mode hother => ?_, fun other hother => ?_⟩
  · rw [hedits.find?_eq] at hother
    split at hother
    next heq => rw [heq, hmade, ← hother]
    next => exact h.directory other mode hother
  · rw [hedits.find?_eq]
    split
    next heq => exact .inl (heq ▸ hmade)
    next => exact h.find?_eq_or other hother

/-! ## Clear ways -/

/-- Whether parts come to no file that is edited, and go on plainly behind every directory that may be made:
without two points, and with names that are not too long. -/
structure IsClear (files dirs : Set Location) (start : Location) (parts : List String) : Prop where
  notTaken : ∀ before rest, parts = before ++ rest → start.after before ∉ files
  plain : ∀ before rest, parts = before ++ rest → start.after before ∈ dirs →
    ∀ part ∈ rest, part ≠ ".." ∧ part.utf8ByteSize ≤ maxNameBytes

theorem IsClear.tail {part : String} (h : IsClear files dirs start (part :: parts)) :
    IsClear files dirs (start.after [part]) parts where
  notTaken before rest heq := h.notTaken (part :: before) rest (congrArg (part :: ·) heq)
  plain before rest heq := h.plain (part :: before) rest (congrArg (part :: ·) heq)

theorem IsClear.init (h : IsClear files dirs start (parts ++ [name])) : IsClear files dirs start parts where
  notTaken before rest heq := h.notTaken before (rest ++ [name]) (by rw [heq, List.append_assoc])
  plain before rest heq hmem part hpart :=
    h.plain before (rest ++ [name]) (by rw [heq, List.append_assoc]) hmem part (List.mem_append_left _ hpart)

theorem enter_congr (h : t.find? loc = u.find? loc) (part : String) : t.enter loc part = u.enter loc part := by
  rw [enter, enter, h]

/-- A directory as it is made can be entered. -/
theorem enter_directory {part : String} (h : t.find? loc = some (.directory FileNode.directoryMode))
    (hups : part ≠ "..") : t.enter loc part =
      if part.utf8ByteSize > maxNameBytes then .error .nameTooLong else .ok (loc.after [part]) := by
  have hsearch : (FileNode.directory FileNode.directoryMode).maySearch = true := rfl
  rw [enter, h]
  simp only [hsearch, Bool.not_true, Bool.false_eq_true, if_false, if_neg hups,
    Location.after_singleton hups]

/-- Behind a directory that one tree is missing, parts lead to nothing in it, and in the other one either to
nothing or as far as they go. -/
theorem Grows.follow_behind (h : u.Grows files dirs t) (hu : u.WellFormed) (hnone : u.find? start = none)
    (hfree : ∀ before rest, parts = before ++ rest → start.after before ∉ files)
    (hplain : ∀ part ∈ parts, part ≠ ".." ∧ part.utf8ByteSize ≤ maxNameBytes) :
    u.find? (start.after parts) = none
      ∧ (t.follow start parts = .error .notFound ∨ t.follow start parts = .ok (start.after parts)) := by
  induction parts generalizing start with
  | nil => exact ⟨hnone, .inr rfl⟩
  | cons part parts ih =>
    obtain ⟨⟨hups, hshort⟩, hparts⟩ := List.forall_mem_cons.mp hplain
    have hnext : u.find? (start.after [part]) = none := by
      rw [Location.after_singleton hups]
      exact hu.find?_append_eq_none hnone [part]
    obtain ⟨hlast, hfollow⟩ :=
      ih hnext (fun before rest heq => hfree (part :: before) rest (congrArg (part :: ·) heq)) hparts
    rw [Location.after_cons]
    refine ⟨hlast, ?_⟩
    rcases h.find?_eq_or start (hfree [] _ rfl) with heq | ⟨-, -, hmade, -⟩
    · rw [follow_cons, enter_of_none (heq.trans hnone)]
      exact .inl rfl
    · rw [follow_cons, enter_directory hmade hups, if_neg (Nat.not_lt.mpr hshort)]
      exact hfollow

/-- Parts that are clear lead to the same in both trees, or come to a directory that one of them is missing. -/
theorem Grows.follow_eq_or (h : u.Grows files dirs t) (hu : u.WellFormed)
    (hclear : IsClear files dirs start parts) :
    t.follow start parts = u.follow start parts
      ∨ u.follow start parts = .error .notFound ∧ u.find? (start.after parts) = none
        ∧ (∃ before rest, parts = before ++ rest ∧ start.after before ∈ dirs)
        ∧ (t.follow start parts = .error .notFound ∨ t.follow start parts = .ok (start.after parts)) := by
  induction parts generalizing start with
  | nil => exact .inl rfl
  | cons part parts ih =>
    rcases h.find?_eq_or start (hclear.notTaken [] _ rfl) with heq | ⟨hmem, hnone, -, -⟩
    · rw [follow_cons, follow_cons, enter_congr heq]
      cases henter : u.enter start part with
      | error cause => exact .inl rfl
      | ok next =>
        obtain ⟨rfl, -⟩ := enter_eq_ok henter
        rcases ih hclear.tail with hsame | ⟨hmissing, hlast, ⟨before, rest, hparts, hmem⟩, hfollow⟩
        · exact .inl hsame
        · exact .inr ⟨hmissing, hlast, ⟨part :: before, rest, congrArg (part :: ·) hparts, hmem⟩, hfollow⟩
    · obtain ⟨hlast, hfollow⟩ := h.follow_behind hu hnone hclear.notTaken (hclear.plain [] _ rfl hmem)
      refine .inr ⟨?_, hlast, ⟨[], _, rfl, hmem⟩, hfollow⟩
      rw [follow_cons, enter_of_none hnone]
      rfl

/-- The same for paths: what differs is a directory that one tree is missing. -/
theorem Grows.locate_eq_or (h : u.Grows files dirs t) (hu : u.WellFormed)
    (hclear : IsClear files dirs (u.startOf d) d.parts) :
    t.locate d = u.locate d
      ∨ u.locate d = .error .notFound ∧ (t.locate d = .error .notFound ∨ ∃ loc, t.locate d = .ok loc) := by
  rw [locate_eq, locate_eq, startOf_congr h.here_eq d]
  split
  · exact .inl rfl
  · rcases h.follow_eq_or hu hclear with hsame | ⟨hmissing, -, -, hfollow⟩
    · exact .inl hsame
    · exact .inr ⟨hmissing, hfollow.imp_right fun h => ⟨_, h⟩⟩

theorem locate_below (t : FileTree) (d : Path) (name : String) : t.locate (d.below name) =
    if (d.below name).display.utf8ByteSize > maxPathBytes then .error .nameTooLong
    else t.follow (t.startOf d) d.parts >>= fun loc => t.enter loc name := by
  rw [← follow_concat]
  rfl

/-- A path that leads to somewhere in a directory leads through it. -/
theorem reaches_of_locate_below (h : t.locate (d.below name) = .ok loc) : t.Reaches d := by
  rw [locate_below] at h
  split at h
  · cases h
  next hdisplay =>
    obtain ⟨between, hfollow, henter⟩ := bind_eq_ok_iff.mp h
    refine ⟨between, ?_, (enter_eq_ok henter).2⟩
    rw [locate_eq, if_neg (Nat.not_lt.mpr (display_le_of_below (Nat.not_lt.mp hdisplay))), hfollow]

theorem node_of_locate_error {cause : FileCause} (h : t.locate p = .error cause) : t.node p = .error cause := by
  rw [node, h]
  rfl

theorem node_of_none (hlocate : t.locate p = .ok loc) (hnone : t.find? loc = none) :
    t.node p = .error .notFound := by
  rw [node, hlocate, ok_bind, hnone]
  rfl

/-- A file in a directory that only the larger tree has is found in neither, unless its name is too long to
be looked for. -/
theorem Grows.node_below_of_missing (h : u.Grows files dirs t) (hu : u.WellFormed)
    (hdisplay : (d.below name).display.utf8ByteSize ≤ maxPathBytes) (hname : name ≠ "..")
    (hnot : u.locationOf (d.below name) ∉ files) (hnot' : u.locationOf (d.below name) ∉ dirs)
    (hnone : u.find? ((u.startOf d).after d.parts) = none)
    (htaken : (u.startOf d).after d.parts ∉ files)
    (hfollow' : u.locate (d.below name) = .error .notFound)
    (hfollow : t.follow (u.startOf d) d.parts = .ok ((u.startOf d).after d.parts)) :
    t.node (d.below name) = u.node (d.below name)
      ∨ maxNameBytes < name.utf8ByteSize ∧ u.node (d.below name) = .error .notFound
        ∧ t.locate (d.below name) = .error .nameTooLong ∧ t.Reaches d := by
  have hstart : t.startOf d = u.startOf d := startOf_congr h.here_eq d
  rw [node_of_locate_error hfollow']
  have hlocate : t.locate (d.below name) = t.enter ((u.startOf d).after d.parts) name := by
    rw [locate_below, if_neg (Nat.not_lt.mpr hdisplay), hstart, hfollow]
    rfl
  rcases h.find?_eq_or _ htaken with heq | ⟨-, -, hmade, -⟩
  · refine .inl (node_of_locate_error ?_)
    rw [hlocate, enter_of_none (heq.trans hnone)]
  · rw [enter_directory hmade hname] at hlocate
    split at hlocate
    next hlong =>
      refine .inr ⟨hlong, rfl, hlocate, (u.startOf d).after d.parts, ?_, _, hmade⟩
      rw [locate_eq, if_neg (Nat.not_lt.mpr (display_le_of_below hdisplay)), hstart, hfollow]
    next =>
      refine .inl (node_of_none hlocate ?_)
      have hlocation : u.locationOf (d.below name) = ((u.startOf d).after d.parts).after [name] :=
        Location.after_append _ _ _
      rw [← hlocation]
      rcases h.find?_eq_or _ hnot with heq | ⟨hmem, -⟩
      · rw [heq, hlocation, Location.after_singleton hname]
        exact hu.find?_append_eq_none hnone [name]
      · exact absurd hmem hnot'

/-- What a path leads to in both trees is the same, if nobody edits or makes it. -/
theorem Grows.node_eq_of_locate_eq (h : u.Grows files dirs t) (hlocate : t.locate p = u.locate p)
    (hnot : u.locationOf p ∉ files) (hnot' : u.locationOf p ∉ dirs) : t.node p = u.node p := by
  unfold node
  rw [hlocate]
  cases hplace : u.locate p with
  | error cause => rfl
  | ok loc =>
    obtain rfl := locate_eq_ok hplace
    rcases h.find?_eq_or _ hnot with heq | ⟨hmem, -⟩
    · rw [ok_bind, ok_bind, heq]
    · exact absurd hmem hnot'

/-- The path of a file leads to the same in both trees, unless its directory is missing from one of them and the
other one has the way to it. -/
theorem Grows.locate_below_eq_or (h : u.Grows files dirs t) (hu : u.WellFormed)
    (hclear : IsClear files dirs (u.startOf d) d.parts) (name : String) :
    t.locate (d.below name) = u.locate (d.below name)
      ∨ (d.below name).display.utf8ByteSize ≤ maxPathBytes
        ∧ (∃ before rest, d.parts = before ++ rest ∧ (u.startOf d).after before ∈ dirs)
        ∧ u.find? ((u.startOf d).after d.parts) = none ∧ u.locate (d.below name) = .error .notFound
        ∧ t.follow (u.startOf d) d.parts = .ok ((u.startOf d).after d.parts) := by
  rw [locate_below, locate_below, startOf_congr h.here_eq d]
  split
  · exact .inl rfl
  next hdisplay =>
    have hfits := Nat.not_lt.mp hdisplay
    rcases h.follow_eq_or hu hclear with hsame | ⟨hmissing, hnone, hway, hfollow⟩
    · rw [hsame]
      cases hfollow : u.follow (u.startOf d) d.parts with
      | error cause => exact .inl rfl
      | ok loc =>
        obtain rfl := follow_eq_ok hfollow
        rw [ok_bind, ok_bind]
        rcases h.find?_eq_or _ (hclear.notTaken d.parts [] (List.append_nil _).symm) with
          heq | ⟨hmem, hnone, -, -⟩
        · exact .inl (enter_congr heq name)
        · exact .inr ⟨hfits, ⟨d.parts, [], (List.append_nil _).symm, hmem⟩, hnone, enter_of_none hnone, rfl⟩
    · rcases hfollow with hfollow | hfollow
      · rw [hfollow, hmissing]
        exact .inl rfl
      · refine .inr ⟨hfits, hway, hnone, ?_, hfollow⟩
        rw [hmissing]
        rfl

/-- The same is found at the path of a file in both trees, unless its name is too long and its directory is
missing from one of them. -/
theorem Grows.node_below_eq_or (h : u.Grows files dirs t) (hu : u.WellFormed)
    (hclear : IsClear files dirs (u.startOf d) d.parts) (hname : name ≠ "..")
    (hnot : u.locationOf (d.below name) ∉ files) (hnot' : u.locationOf (d.below name) ∉ dirs) :
    t.node (d.below name) = u.node (d.below name)
      ∨ maxNameBytes < name.utf8ByteSize
        ∧ (∃ before rest, d.parts = before ++ rest ∧ (u.startOf d).after before ∈ dirs)
        ∧ u.node (d.below name) = .error .notFound
        ∧ t.locate (d.below name) = .error .nameTooLong ∧ t.Reaches d := by
  rcases h.locate_below_eq_or hu hclear name with hlocate | ⟨hfits, hway, hnone, hmissing, hfollow⟩
  · exact .inl (h.node_eq_of_locate_eq hlocate hnot hnot')
  · have htaken := hclear.notTaken d.parts [] (List.append_nil _).symm
    exact (h.node_below_of_missing hu hfits hname hnot hnot' hnone htaken hmissing hfollow).imp_right
      fun ⟨hlong, hrest⟩ => ⟨hlong, hway, hrest⟩

end FileTree

end ShaderRecords

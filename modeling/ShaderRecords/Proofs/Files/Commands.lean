/-
ShaderRecords.Proofs.Files.Commands — what commands have done that were carried out.

For each kind of command there is one lemma that says what was at its paths, and which edit has been made
(`FileTree.Edits`). Whoever asks what a command does to a tree takes it from there, and need not go through the
ways in which the command may fail.
-/
import ShaderRecords.Proofs.Files.Tree

namespace ShaderRecords

namespace FileTree

variable {t t' : FileTree} {p source target : Path} {bytes : ByteArray} {done : Unit}

theorem eq_true_of_grant {may : Bool} (h : grant may = .ok done) : may = true := by
  unfold grant at h
  split at h
  next hmay => exact hmay
  next => cases h

/-! ## Commands that look -/

theorem execute_status_eq_ok {status : FileStatus} (h : t.execute (.status p) = .ok (status, t')) : t' = t := by
  obtain ⟨_, -, h⟩ := bind_eq_ok_iff.mp h
  exact (Prod.mk.inj (Except.ok.inj h)).2.symm

/-- What has been read is in a file that may be read. -/
theorem execute_read_eq_ok (h : t.execute (.read p) = .ok (bytes, t')) :
    t' = t ∧ ∃ loc mode, t.file p = .ok (loc, bytes, mode) ∧ (FileNode.file bytes mode).mayRead = true := by
  obtain ⟨⟨loc, n⟩, hnode, h⟩ := bind_eq_ok_iff.mp h
  obtain ⟨_, hgrant, h⟩ := bind_eq_ok_iff.mp h
  obtain ⟨⟨place, held, mode⟩, hfile, h⟩ := bind_eq_ok_iff.mp h
  obtain ⟨rfl, rfl⟩ := Prod.mk.inj (Except.ok.inj h)
  obtain ⟨rfl, rfl⟩ := Prod.mk.inj (Except.ok.inj (hnode.symm.trans (file_eq_ok hfile)))
  exact ⟨rfl, loc, mode, hfile, eq_true_of_grant hgrant⟩

/-! ## Commands that edit -/

/-- A directory is made where there was nothing. -/
theorem execute_makeDirectory_eq_ok (h : t.execute (.makeDirectory p) = .ok (done, t')) :
    ∃ loc, t.locate p = .ok loc ∧ t.find? loc = none ∧ t.grantChange loc = .ok ()
      ∧ t' = t.put loc (.directory FileNode.directoryMode) := by
  obtain ⟨loc, hlocate, h⟩ := bind_eq_ok_iff.mp h
  cases hfind : t.find? loc with
  | some n =>
    rw [hfind] at h
    cases h
  | none =>
    rw [hfind] at h
    obtain ⟨_, hgrant, h⟩ := bind_eq_ok_iff.mp h
    exact ⟨loc, hlocate, hfind, hgrant, (Prod.mk.inj (Except.ok.inj h)).2.symm⟩

/-- A file has been made empty where there was no directory. -/
theorem execute_clear_eq_ok (h : t.execute (.clear p) = .ok (done, t')) :
    ∃ loc mode, t.locate p = .ok loc ∧ ¬t.HasDirectory loc ∧ t.Edits loc (some (.file .empty mode)) t' := by
  obtain ⟨loc, hlocate, h⟩ := bind_eq_ok_iff.mp h
  cases hfind : t.find? loc with
  | none =>
    rw [hfind] at h
    obtain ⟨_, -, h⟩ := bind_eq_ok_iff.mp h
    obtain rfl := (Prod.mk.inj (Except.ok.inj h)).2
    exact ⟨loc, _, hlocate, not_hasDirectory_of_none hfind, edits_put t _ (ne_nil_of_none hfind)⟩
  | some n =>
    rw [hfind] at h
    cases n with
    | directory mode => cases h
    | file old mode =>
      obtain ⟨_, -, h⟩ := bind_eq_ok_iff.mp h
      obtain rfl := (Prod.mk.inj (Except.ok.inj h)).2
      have hfree := not_hasDirectory_of_file hfind
      exact ⟨loc, mode, hlocate, hfree, edits_put t _ (ne_nil_of_not_hasDirectory hfree)⟩

/-- Bytes have been added behind those of a file. -/
theorem execute_append_eq_ok (h : t.execute (.append p bytes) = .ok (done, t')) :
    ∃ loc old mode, t.file p = .ok (loc, old, mode) ∧ t.Edits loc (some (.file (old ++ bytes) mode)) t' := by
  obtain ⟨⟨loc, old, mode⟩, hfile, h⟩ := bind_eq_ok_iff.mp h
  obtain rfl := (Prod.mk.inj (Except.ok.inj h)).2
  exact ⟨loc, old, mode, hfile, edits_put t _ (ne_nil_of_not_hasDirectory (locate_of_file hfile).2)⟩

/-- A file has left its place, and is as it was in another place where there was no directory. -/
theorem execute_rename_eq_ok (h : t.execute (.rename source target) = .ok (done, t')) :
    ∃ loc bytes mode place u, t.file source = .ok (loc, bytes, mode) ∧ t.locate target = .ok place
      ∧ ¬t.HasDirectory place ∧ t.Edits loc none u ∧ u.Edits place (some (.file bytes mode)) t' := by
  obtain ⟨⟨loc, bytes, mode⟩, hfile, h⟩ := bind_eq_ok_iff.mp h
  obtain ⟨place, hplace, h⟩ := bind_eq_ok_iff.mp h
  obtain ⟨_, -, h⟩ := bind_eq_ok_iff.mp h
  obtain ⟨_, -, h⟩ := bind_eq_ok_iff.mp h
  obtain ⟨hfree, rfl⟩ : ¬t.HasDirectory place ∧ t' = (t.erase loc).put place (.file bytes mode) := by
    cases hthere : t.find? place with
    | none =>
      rw [hthere] at h
      exact ⟨not_hasDirectory_of_none hthere, (Prod.mk.inj (Except.ok.inj h)).2.symm⟩
    | some n =>
      rw [hthere] at h
      cases n with
      | directory mode => cases h
      | file old mode' => exact ⟨not_hasDirectory_of_file hthere, (Prod.mk.inj (Except.ok.inj h)).2.symm⟩
  exact ⟨loc, bytes, mode, place, t.erase loc, hfile, hplace, hfree,
    edits_erase t (ne_nil_of_not_hasDirectory (locate_of_file hfile).2),
    edits_put _ _ (ne_nil_of_not_hasDirectory hfree)⟩

/-- A file has left its place. -/
theorem execute_remove_eq_ok (h : t.execute (.remove p) = .ok (done, t')) :
    ∃ loc bytes mode, t.file p = .ok (loc, bytes, mode) ∧ t.Edits loc none t' := by
  obtain ⟨⟨loc, n⟩, hnode, h⟩ := bind_eq_ok_iff.mp h
  obtain ⟨_, -, h⟩ := bind_eq_ok_iff.mp h
  obtain ⟨⟨place, bytes, mode⟩, hfile, h⟩ := bind_eq_ok_iff.mp h
  obtain rfl := (Prod.mk.inj (Except.ok.inj h)).2
  obtain ⟨rfl, -⟩ := Prod.mk.inj (Except.ok.inj (hnode.symm.trans (file_eq_ok hfile)))
  exact ⟨loc, bytes, mode, hfile, edits_erase t (ne_nil_of_not_hasDirectory (locate_of_file hfile).2)⟩

end FileTree

end ShaderRecords

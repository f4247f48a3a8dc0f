/-
ShaderRecords.Proofs.Files.Replacement — what a file holds after it has been replaced.

Replacing a file compares its text with the new one before it writes. What is read has line feeds for line ends of
any kind, and what is written has the line ends of the new text, so the two are not compared as they are. The file
holds the new text to the byte if it is written; if it is left as it is, it holds a text that differs from the new
one in its line ends at most (`Filing.replace_holds`). Replacing it again changes nothing if the new text has no
carriage return; otherwise it is written each time.
-/
import ShaderRecords.Proofs.Files.Answers
import ShaderRecords.Proofs.Files.Commands
import ShaderRecords.Proofs.Files.Exchanges

namespace ShaderRecords

/-! ## Files that are written -/

namespace FileTree

variable {t t' : FileTree} {p source target : Path} {loc : Location} {bytes : ByteArray} {mode : Nat}

/-- A file that is put where a path leads is found there. -/
theorem Edits.file_eq (h : t.Edits loc (some (.file bytes mode)) t') (hlocate : t.locate p = .ok loc)
    (hfree : ¬t.HasDirectory loc) : t'.file p = .ok (loc, bytes, mode) := by
  have hlocate' : t'.locate p = .ok loc :=
    locate_of_directories h.here_eq (fun _ _ => h.find?_directory hfree) hlocate
  have hfind : t'.find? loc = some (.file bytes mode) := by rw [h.find?_eq, if_pos rfl]
  rw [file, node, hlocate', ok_bind, hfind]
  rfl

/-- A file that is made empty is there and empty. -/
theorem file_of_clear (h : t.execute (.clear p) = .ok ((), t')) :
    ∃ loc mode, t'.file p = .ok (loc, .empty, mode) := by
  obtain ⟨loc, mode, hlocate, hfree, hedits⟩ := execute_clear_eq_ok h
  exact ⟨loc, mode, hedits.file_eq hlocate hfree⟩

/-- Bytes are added behind those that are there. -/
theorem file_of_append {old : ByteArray} (hfile : t.file p = .ok (loc, old, mode))
    (h : t.execute (.append p bytes) = .ok ((), t')) : t'.file p = .ok (loc, old ++ bytes, mode) := by
  obtain ⟨hlocate, hfree⟩ := locate_of_file hfile
  obtain ⟨_, _, _, hfile', hedits⟩ := execute_append_eq_ok h
  obtain ⟨rfl, rfl, rfl⟩ : _ ∧ _ ∧ _ := by simpa using hfile.symm.trans hfile'
  exact hedits.file_eq hlocate hfree

/-- A file takes the place of another as it is. -/
theorem file_of_rename (hfile : t.file source = .ok (loc, bytes, mode))
    (h : t.execute (.rename source target) = .ok ((), t')) : ∃ place, t'.file target = .ok (place, bytes, mode) := by
  obtain ⟨-, hsource⟩ := locate_of_file hfile
  obtain ⟨_, _, _, place, u, hfile', hplace, hfree, herased, hput⟩ := execute_rename_eq_ok h
  obtain ⟨rfl, rfl, rfl⟩ : _ ∧ _ ∧ _ := by simpa using hfile.symm.trans hfile'
  have hplace' : u.locate target = .ok place :=
    locate_of_directories herased.here_eq (fun _ _ => herased.find?_directory hsource) hplace
  exact ⟨place, hput.file_eq hplace' (herased.not_hasDirectory hfree)⟩

end FileTree

/-! ## Steps that have succeeded -/

namespace Filing

variable {α β : Type} {t t' : FileTree} {p : Path} {text : String} {b : Bool}

theorem runOn_bind_eq_ok {x : Filing α} {f : α → Filing β} {y : β} (h : (x >>= f).runOn t = (.ok y, t')) :
    ∃ a u, x.runOn t = (.ok a, u) ∧ (f a).runOn u = (.ok y, t') := by
  rw [runOn_bind] at h
  cases hx : x.runOn t with
  | mk result u =>
    rw [hx] at h
    cases result with
    | ok a => exact ⟨a, u, rfl, h⟩
    | error e => cases (Prod.mk.inj h).1

/-- A command that has brought something has been carried out. -/
theorem execute_of_perform {c : FileCommand} {x : c.Result} (h : (perform c).runOn t = (.ok x, t')) :
    IsNameable c.path ∧ t.execute c = .ok (x, t') := by
  obtain ⟨answer, u, hattempt, hanswer⟩ := runOn_bind_eq_ok h
  rw [runOn_attempt] at hattempt
  split at hattempt
  · cases (Prod.mk.inj hattempt).1
  next hname =>
    refine ⟨by simpa [IsNameable] using hname, ?_⟩
    cases hexecute : t.execute c with
    | error cause =>
      rw [hexecute] at hattempt
      obtain ⟨hresult, rfl⟩ := Prod.mk.inj hattempt
      obtain rfl := Except.ok.inj hresult
      cases (Prod.mk.inj hanswer).1
    | ok done =>
      obtain ⟨y, u'⟩ := done
      rw [hexecute] at hattempt
      obtain ⟨hresult, rfl⟩ := Prod.mk.inj hattempt
      obtain rfl := Except.ok.inj hresult
      obtain ⟨hy, rfl⟩ := Prod.mk.inj hanswer
      rw [Except.ok.inj hy]

/-- A text that has been put in the place of a file is what the file holds. -/
theorem file_of_replaceThrough {draft : Path} (h : (replaceThrough draft p text).runOn t = (.ok (), t')) :
    IsNameable draft ∧ ∃ loc mode, t'.file p = .ok (loc, text.toUTF8, mode) := by
  unfold replaceThrough at h
  rw [runOn_tryCatch] at h
  split at h
  next result u hbody =>
    obtain ⟨-, rfl⟩ := Prod.mk.inj h
    obtain ⟨_, t₁, hclear, hbody⟩ := runOn_bind_eq_ok hbody
    obtain ⟨_, t₂, happend, hrename⟩ := runOn_bind_eq_ok hbody
    obtain ⟨hname, hclear⟩ := execute_of_perform hclear
    obtain ⟨loc, mode, hfile⟩ := FileTree.file_of_clear hclear
    have hfile' := FileTree.file_of_append hfile (execute_of_perform happend).2
    rw [ByteArray.empty_append] at hfile'
    obtain ⟨place, hfile''⟩ := FileTree.file_of_rename hfile' (execute_of_perform hrename).2
    exact ⟨hname, place, mode, hfile''⟩
  next e u hbody =>
    -- What is done after a failure ends with the failure.
    cases e with
    | file e =>
      obtain ⟨_, u', -, hthrow⟩ := runOn_bind_eq_ok h
      cases (Prod.mk.inj hthrow).1
    | _ => cases (Prod.mk.inj h).1

/-- A directory that has been made, or was there, is reached. -/
theorem reaches_of_ensureDirectory {d : Path} (h : (ensureDirectory d).runOn t = (.ok (), t')) : t'.Reaches d := by
  by_cases hname : IsNameable d
  · cases hlocate : t.locate d with
    | error cause =>
      rw [runOn_ensureDirectory_of_locate_error hname hlocate] at h
      cases (Prod.mk.inj h).1
    | ok loc =>
      cases hfind : t.find? loc with
      | some n =>
        rw [runOn_ensureDirectory_of_some hname hlocate hfind] at h
        obtain ⟨hresult, rfl⟩ := Prod.mk.inj h
        cases n with
        | directory mode => exact ⟨loc, hlocate, mode, hfind⟩
        | file bytes mode => cases hresult
      | none =>
        rw [runOn_ensureDirectory_of_none hname hlocate hfind] at h
        cases hgrant : t.grantChange loc with
        | error cause =>
          rw [hgrant] at h
          cases (Prod.mk.inj h).1
        | ok _ =>
          rw [hgrant] at h
          obtain ⟨-, rfl⟩ := Prod.mk.inj h
          have hfree := FileTree.not_hasDirectory_of_none hfind
          have hedits := FileTree.edits_put t (.directory FileNode.directoryMode) (FileTree.ne_nil_of_none hfind)
          refine ⟨loc, ?_, FileNode.directoryMode, ?_⟩
          · exact FileTree.locate_of_directories hedits.here_eq (fun _ _ => hedits.find?_directory hfree) hlocate
          · rw [hedits.find?_eq, if_pos rfl]
  · rw [runOn_ensureDirectory_of_not_nameable hname] at h
    cases (Prod.mk.inj h).1

/-- Looking for something leaves the tree as it is. -/
theorem eq_of_isThere {there : Bool} (h : (isThere p).runOn t = (.ok there, t')) : t' = t := by
  by_cases hname : IsNameable p
  · cases hnode : t.node p with
    | error cause =>
      rw [runOn_isThere_of_error hname hnode] at h
      exact (Prod.mk.inj h).2.symm
    | ok found =>
      rw [runOn_isThere_of_ok hname hnode] at h
      exact (Prod.mk.inj h).2.symm
  · rw [runOn_isThere_of_not_nameable hname] at h
    exact (Prod.mk.inj h).2.symm

/-- The text of a file is what the file holds, with its line ends as line feeds. -/
theorem runOn_readText_of_file {loc : Location} {held : String} {mode : Nat} (hname : IsNameable p)
    (hfile : t.file p = .ok (loc, held.toUTF8, mode)) (hread : (FileNode.file held.toUTF8 mode).mayRead = true) :
    (readText p).runOn t = (.ok (String.ofList (lineFeeds held.toList)), t) := by
  have hexecute : t.execute (.read p) = .ok (held.toUTF8, t) := by
    rw [FileTree.execute, FileTree.file_eq_ok hfile, ok_bind]
    show (FileTree.grant (FileNode.file held.toUTF8 mode).mayRead >>= _) = _
    rw [hread, hfile]
    rfl
  have hperform : (perform (.read p)).runOn t = (.ok held.toUTF8, t) := by
    unfold perform
    rw [runOn_bind, runOn_attempt_of_ok (c := .read p) hname hexecute]
    rfl
  unfold readText
  rw [runOn_bind, hperform]
  dsimp only
  rw [textOf_toUTF8]
  rfl

/-- A file that has been read holds a text. -/
theorem file_of_readText {old : String} (h : (readText p).runOn t = (.ok old, t')) :
    t' = t ∧ IsNameable p ∧ ∃ loc, ∃ held : String, ∃ mode, t.file p = .ok (loc, held.toUTF8, mode)
      ∧ (FileNode.file held.toUTF8 mode).mayRead = true ∧ String.ofList (lineFeeds held.toList) = old := by
  obtain ⟨bytes, u, hperform, htext⟩ := runOn_bind_eq_ok h
  obtain ⟨hname, hexecute⟩ := execute_of_perform hperform
  obtain ⟨hdecoded, rfl⟩ := Prod.mk.inj htext
  obtain ⟨rfl, loc, mode, hfile, hread⟩ := FileTree.execute_read_eq_ok hexecute
  unfold textOf at hdecoded
  cases hbytes : String.fromUTF8? bytes with
  | none =>
    rw [hbytes] at hdecoded
    cases hdecoded
  | some held =>
    rw [hbytes] at hdecoded
    obtain rfl := toUTF8_of_fromUTF8? hbytes
    exact ⟨rfl, hname, loc, held, mode, hfile, hread, Except.ok.inj hdecoded⟩

/-! ## Files that are replaced -/

theorem file_of_writeOver (h : (writeOver p text).runOn t = (.ok b, t')) :
    b = true ∧ NamesFile p ∧ ∃ loc mode, t'.file p = .ok (loc, text.toUTF8, mode) := by
  rw [writeOver_eq] at h
  split at h
  · cases (Prod.mk.inj h).1
  next hparts =>
    obtain ⟨_, u, hthrough, hdone⟩ := runOn_bind_eq_ok h
    obtain ⟨hb, rfl⟩ := Prod.mk.inj hdone
    obtain ⟨hnameable, hfile⟩ := file_of_replaceThrough hthrough
    exact ⟨(Except.ok.inj hb).symm, .of_draft hnameable hparts, hfile⟩

/-- Where a path without parts leads, there is a directory once its directories have been made. -/
theorem parts_ne_nil_of_file {loc : Location} {bytes : ByteArray} {mode : Nat}
    (h : (ensureDirectories p.root p.parent.parts.reverse).runOn t = (.ok (), t'))
    (hfile : t'.file p = .ok (loc, bytes, mode)) : p.parts ≠ [] := by
  intro hparts
  have hp : p = ⟨p.root, []⟩ := by rw [← hparts]
  have hdirs : (ensureDirectory p).runOn t = (.ok (), t') := by
    rw [Path.parent, hparts] at h
    rw [hp]
    exact h
  obtain ⟨place, hlocate, hdirectory⟩ := reaches_of_ensureDirectory hdirs
  obtain ⟨hlocate', hfree⟩ := FileTree.locate_of_file hfile
  obtain rfl := Except.ok.inj (hlocate.symm.trans hlocate')
  exact hfree hdirectory

/-- A file that has been replaced either has been written, or holds the text already but for its line ends. -/
theorem replace_cases (h : (replace p text).runOn t = (.ok b, t')) :
    NamesFile p ∧ ∃ loc, ∃ held : String, ∃ mode, t'.file p = .ok (loc, held.toUTF8, mode)
      ∧ (b = true ∧ held = text ∨ b = false ∧ String.ofList (lineFeeds held.toList) = text
        ∧ (FileNode.file held.toUTF8 mode).mayRead = true) := by
  rw [replace_eq, replaceThere_eq] at h
  obtain ⟨_, u, hdirs, hlook⟩ := runOn_bind_eq_ok h
  obtain ⟨there, u', hthere, hrest⟩ := runOn_bind_eq_ok hlook
  obtain rfl := eq_of_isThere hthere
  have hrewrite : ∀ {b}, (writeOver p text).runOn u' = (.ok b, t') →
      NamesFile p ∧ ∃ loc, ∃ held : String, ∃ mode, t'.file p = .ok (loc, held.toUTF8, mode)
        ∧ (b = true ∧ held = text ∨ b = false ∧ String.ofList (lineFeeds held.toList) = text
          ∧ (FileNode.file held.toUTF8 mode).mayRead = true) := by
    intro b h
    obtain ⟨hb, hname, loc, mode, hfile⟩ := file_of_writeOver h
    exact ⟨hname, loc, text, mode, hfile, .inl ⟨hb, rfl⟩⟩
  split at hrest
  · obtain ⟨old, u'', hread, hcompare⟩ := runOn_bind_eq_ok hrest
    obtain ⟨rfl, hname, loc, held, mode, hfile, hmay, hold⟩ := file_of_readText hread
    split at hcompare
    next hsame =>
      obtain ⟨hb, rfl⟩ := Prod.mk.inj hcompare
      exact ⟨⟨hname, parts_ne_nil_of_file hdirs hfile⟩, loc, held, mode, hfile,
        .inr ⟨(Except.ok.inj hb).symm, hold.trans hsame, hmay⟩⟩
    next => exact hrewrite hcompare
  · exact hrewrite hrest

/-- A file is left as it is if it can be read and holds the text but for its line ends, and only then. -/
theorem runOn_replace_eq_false_iff {loc : Location} {held : String} {mode : Nat} (hname : NamesFile p)
    (hfile : t.file p = .ok (loc, held.toUTF8, mode)) : (replace p text).runOn t = (.ok false, t)
      ↔ String.ofList (lineFeeds held.toList) = text ∧ (FileNode.file held.toUTF8 mode).mayRead = true := by
  constructor
  · intro h
    obtain ⟨-, loc', held', mode', hfile', hcases⟩ := replace_cases h
    obtain ⟨-, hrest⟩ := Prod.mk.inj (Except.ok.inj (hfile.symm.trans hfile'))
    obtain ⟨hbytes, rfl⟩ := Prod.mk.inj hrest
    obtain rfl : held = held' := by
      have hsame := congrArg String.fromUTF8? hbytes
      rwa [fromUTF8?_toUTF8, fromUTF8?_toUTF8, Option.some.injEq] at hsame
    rcases hcases with ⟨hb, -⟩ | ⟨-, hholds⟩
    · cases hb
    · exact hholds
  · rintro ⟨rfl, hread⟩
    obtain ⟨hlocate, hfree⟩ := FileTree.locate_of_file hfile
    have hbelow : t.locate (p.parent.below p.name) = .ok loc := by rwa [Path.below_parent hname.2]
    have hreaches : t.Reaches p.parent := FileTree.reaches_of_locate_below hbelow
    have hdirs : (ensureDirectories p.root p.parent.parts.reverse).runOn t = (.ok (), t) :=
      runOn_ensureDirectories_of_reaches hname.parent hreaches
    unfold replace
    rw [runOn_bind, hdirs]
    dsimp only
    rw [runOn_bind, runOn_isThere_of_ok hname.1 (FileTree.file_eq_ok hfile)]
    dsimp only
    rw [if_pos rfl, runOn_bind, runOn_readText_of_file hname.1 hfile hread]
    dsimp only
    rw [if_pos rfl]
    rfl

/-- A file that has been replaced holds the new text to the byte if it has been written, and otherwise a text that
differs from the new one in its line ends at most: it holds the new text exactly if it has been written or has no
carriage return. Replacing it again changes nothing exactly if the new text has none and the file can be read. -/
theorem replace_holds (h : (replace p text).runOn t = (.ok b, t')) :
    ∃ loc, ∃ held : String, ∃ mode, t'.file p = .ok (loc, held.toUTF8, mode)
      ∧ (if b then held else String.ofList (lineFeeds held.toList)) = text
      ∧ (held = text ↔ b = true ∨ '\r' ∉ held.toList)
      ∧ ((replace p text).runOn t' = (.ok false, t')
        ↔ '\r' ∉ text.toList ∧ (FileNode.file held.toUTF8 mode).mayRead = true) := by
  obtain ⟨hname, loc, held, mode, hfile, hcases⟩ := replace_cases h
  refine ⟨loc, held, mode, hfile, ?_⟩
  rw [runOn_replace_eq_false_iff hname hfile]
  have hself : ∀ s : String, String.ofList (lineFeeds s.toList) = s ↔ '\r' ∉ s.toList := by
    intro s
    rw [← String.toList_inj, String.toList_ofList, lineFeeds_eq_self_iff]
  rcases hcases with ⟨rfl, rfl⟩ | ⟨rfl, rfl, -⟩
  · simp [hself]
  · refine ⟨rfl, ?_, ?_⟩
    · rw [eq_comm, hself]
      simp
    · simp [cr_not_mem_lineFeeds]

/-- The path of a file in a directory. -/
def lightsPath : Path := ⟨"", ["out", "Lights.hlsl"]⟩

/-- A tree with the directory, and with the file if it holds something. -/
def lightsTree (held? : Option String) : FileTree where
  nodes := (["out"], .directory FileNode.directoryMode) ::
    (held?.map fun held => (["out", "Lights.hlsl"], .file held.toUTF8 FileNode.fileMode)).toList

/-- A file with line feeds is written once. -/
theorem replace_holds_with_line_feeds : ∃ t, (replace lightsPath "a\n").runOn (lightsTree none) = (.ok true, t)
    ∧ (replace lightsPath "a\n").runOn t = (.ok false, t) := by
  have hwritten : (replace lightsPath "a\n").runOn (lightsTree none) = (.ok true, _) := rfl
  refine ⟨_, hwritten, ?_⟩
  obtain ⟨loc, held, mode, hfile, hheld, -, hagain⟩ := replace_holds hwritten
  obtain rfl : held = "a\n" := hheld
  refine hagain.mpr ⟨by decide, ?_⟩
  cases hfile
  rfl

/-- A file with carriage returns is written each time, and one that differs from the new text in nothing else is left
with them. -/
theorem replace_with_carriage_returns :
    (∃ t, (replace lightsPath "a\r\n").runOn (lightsTree none) = (.ok true, t)
      ∧ ((replace lightsPath "a\r\n").runOn t).1 = .ok true)
    ∧ (replace lightsPath "a\n").runOn (lightsTree (some "a\r\n")) = (.ok false, lightsTree (some "a\r\n"))
    ∧ ∃ loc mode, (lightsTree (some "a\r\n")).file lightsPath = .ok (loc, "a\r\n".toUTF8, mode) :=
  ⟨⟨_, rfl, rfl⟩, rfl, _, _, rfl⟩

end Filing

end ShaderRecords

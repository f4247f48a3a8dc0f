/-
ShaderRecords.Proofs.Files.Tandem — one program on two trees.

`Tandem R R' x` says that the program `x` gives the same on any two trees that `R` relates, that the trees stay
related, and that `R'` relates them if the program succeeds. The rules follow the program: one for each way in
which programs are put together, one for each kind of command (`Alike`), and then one for each of the programs
that write files. What is known about the trees only enters through `Agrees`, which says that related trees
have the same at a path and stay related when a file is edited there in both. With a relation that holds of
equal trees the rules say what a program keeps.
-/
import Mathlib.Data.Set.Basic
import ShaderRecords.Product.Delivery
import ShaderRecords.Proofs.Files.Tree

namespace ShaderRecords

/-! ## Programs on a tree -/

namespace Filing

variable {α β : Type}

theorem runOn_andThen (x : FileProgram α) (f : α → FileProgram β) (t : FileTree) :
    (x.andThen f).runOn t = (f (x.runOn t).1).runOn (x.runOn t).2 := by
  unfold FileProgram.runOn
  rw [FileProgram.runWith_andThen]
  rfl

theorem runOn_bind (x : Filing α) (f : α → Filing β) (t : FileTree) :
    (x >>= f).runOn t = match x.runOn t with
      | (.ok a, t') => (f a).runOn t'
      | (.error b, t') => (.error b, t') := by
  have hrun : (x >>= f).run = x.run.andThen (ExceptT.bindCont f) := rfl
  unfold runOn
  rw [hrun, runOn_andThen]
  obtain ⟨result, t'⟩ := FileProgram.runOn x.run t
  cases result <;> rfl

theorem runOn_tryCatch (x : Filing α) (handler : Breakdown → Filing α) (t : FileTree) :
    (tryCatch x handler).runOn t = match x.runOn t with
      | (.ok a, t') => (.ok a, t')
      | (.error b, t') => (handler b).runOn t' := by
  unfold runOn
  show (x.run.andThen _).runOn t = _
  rw [runOn_andThen]
  obtain ⟨result, t'⟩ := FileProgram.runOn x.run t
  cases result <;> rfl

/-- A command that can be given is answered by the tree, and one that fails leaves it as it is. -/
theorem runOn_attempt (c : FileCommand) (t : FileTree) : (attempt c).runOn t =
    if c.path.display.toList.contains '\x00' then (.error .wrongContent, t)
    else match t.execute c with
      | .ok (x, t') => (.ok (.ok x), t')
      | .error cause => (.ok (.error cause), t) := by
  unfold attempt
  split
  · rfl
  · have hask : runOn (ExceptT.mk (.ask c fun answer => .done (.ok answer))) t
        = (.ok (FileTree.handle c t).1, (FileTree.handle c t).2) := rfl
    rw [hask, FileTree.handle]
    cases t.execute c <;> rfl

end Filing

/-! ## Tandems -/

/-- Whether a program gives the same on two trees that `P` relates, and leaves trees that `Q` relates if it
succeeds, and `R` if it does not. -/
def Tandem {α : Type} (P : FileTree → FileTree → Prop) (x : Filing α) (Q R : FileTree → FileTree → Prop) : Prop :=
  ∀ t u, P t u → ∃ result t' u', x.runOn t = (result, t') ∧ x.runOn u = (result, u')
    ∧ match result with
      | .ok _ => Q t' u'
      | .error _ => R t' u'

variable {α β : Type} {P Q R S : FileTree → FileTree → Prop}

theorem tandem_pure (a : α) : Tandem P (pure a : Filing α) P R :=
  fun t u h => ⟨.ok a, t, u, rfl, rfl, h⟩

theorem tandem_throw (b : Breakdown) : Tandem R (throw b : Filing α) Q R :=
  fun t u h => ⟨.error b, t, u, rfl, rfl, h⟩

theorem tandem_lift (x : Except Breakdown α) : Tandem R (Filing.lift x) R R :=
  fun t u h => ⟨x, t, u, rfl, rfl, by cases x <;> exact h⟩

/-- A program goes on in tandem with what the first one gives. -/
theorem Tandem.bind {x : Filing α} {f : α → Filing β} (hx : Tandem P x Q R) (hf : ∀ a, Tandem Q (f a) S R) :
    Tandem P (x >>= f) S R := by
  intro t u h
  obtain ⟨result, t', u', ht, hu, hresult⟩ := hx t u h
  rw [Filing.runOn_bind, Filing.runOn_bind, ht, hu]
  cases result with
  | error b => exact ⟨.error b, t', u', rfl, rfl, hresult⟩
  | ok a => exact hf a t' u' hresult

theorem Tandem.catch {x : Filing α} {handler : Breakdown → Filing α} (hx : Tandem P x Q R)
    (hhandler : ∀ b, Tandem R (handler b) Q S) : Tandem P (tryCatch x handler) Q S := by
  intro t u h
  obtain ⟨result, t', u', ht, hu, hresult⟩ := hx t u h
  rw [Filing.runOn_tryCatch, Filing.runOn_tryCatch, ht, hu]
  cases result with
  | ok a => exact ⟨.ok a, t', u', rfl, rfl, hresult⟩
  | error b => exact hhandler b t' u' hresult

theorem Tandem.imp {x : Filing α} {P' Q' R' : FileTree → FileTree → Prop} (h : Tandem P x Q R)
    (hP : ∀ t u, P' t u → P t u) (hQ : ∀ t u, Q t u → Q' t u) (hR : ∀ t u, R t u → R' t u) :
    Tandem P' x Q' R' := by
  intro t u ht
  obtain ⟨result, t', u', hrun, hrun', hresult⟩ := h t u (hP t u ht)
  refine ⟨result, t', u', hrun, hrun', ?_⟩
  cases result with
  | ok a => exact hQ t' u' hresult
  | error b => exact hR t' u' hresult

/-! ## Commands -/

/-- Whether a command does the same on related trees, and leaves them related. -/
def Alike (R : FileTree → FileTree → Prop) (c : FileCommand) : Prop :=
  ∀ t u, R t u → (∃ cause, t.execute c = .error cause ∧ u.execute c = .error cause)
    ∨ ∃ x t' u', t.execute c = .ok (x, t') ∧ u.execute c = .ok (x, u') ∧ R t' u'

theorem tandem_attempt {c : FileCommand} (h : Alike R c) : Tandem R (Filing.attempt c) R R := by
  intro t u hR
  rw [Filing.runOn_attempt, Filing.runOn_attempt]
  split
  · exact ⟨_, t, u, rfl, rfl, hR⟩
  · rcases h t u hR with ⟨cause, ht, hu⟩ | ⟨x, t', u', ht, hu, hR'⟩
    · rw [ht, hu]
      exact ⟨_, t, u, rfl, rfl, hR⟩
    · rw [ht, hu]
      exact ⟨_, t', u', rfl, rfl, hR'⟩

theorem tandem_perform {c : FileCommand} (h : Alike R c) : Tandem R (Filing.perform c) R R := by
  unfold Filing.perform
  refine (tandem_attempt h).bind fun answer => ?_
  cases answer with
  | ok x => exact tandem_pure x
  | error cause => exact tandem_throw _

/-- Whether related trees have the same at a path, and stay related when a file is put or taken away there, or
at another of the locations `files`, in both. -/
structure Agrees (R : FileTree → FileTree → Prop) (files : Set Location) (p : Path) : Prop where
  wellFormed : ∀ t u, R t u → t.WellFormed ∧ u.WellFormed
  locate_eq : ∀ t u, R t u → t.locate p = u.locate p
  mem : ∀ t u, R t u → ∀ loc, t.locate p = .ok loc → loc ∈ files
  find?_eq : ∀ t u, R t u → ∀ loc ∈ files, t.find? loc = u.find? loc
  parent_eq : ∀ t u, R t u → ∀ loc, t.locate p = .ok loc → t.find? loc.dropLast = u.find? loc.dropLast
  edit : ∀ t u, R t u → ∀ loc ∈ files, ¬t.HasDirectory loc → t.HasDirectory loc.dropLast →
    u.HasDirectory loc.dropLast → ∀ n? t' u', (∀ n, n? = some n → n.isDirectory = false) →
    t.Edits loc n? t' → u.Edits loc n? u' → R t' u'

theorem alike_status {p : Path} (h : ∀ t u, R t u → t.node p = u.node p) : Alike R (.status p) := by
  intro t u hR
  simp only [FileTree.execute, ← h t u hR]
  cases t.node p with
  | error cause => exact .inl ⟨cause, rfl, rfl⟩
  | ok found => exact .inr ⟨found.2.status, t, u, rfl, rfl, hR⟩

theorem alike_read {p : Path} (h : ∀ t u, R t u → t.node p = u.node p) : Alike R (.read p) := by
  intro t u hR
  have hfile : u.file p = t.file p := by
    unfold FileTree.file
    rw [h t u hR]
  simp only [FileTree.execute, ← h t u hR, hfile]
  cases t.node p with
  | error cause => exact .inl ⟨cause, rfl, rfl⟩
  | ok found =>
    rw [ok_bind, ok_bind]
    cases FileTree.grant found.2.mayRead with
    | error cause => exact .inl ⟨cause, rfl, rfl⟩
    | ok _ =>
      cases t.file p with
      | error cause => exact .inl ⟨cause, rfl, rfl⟩
      | ok file => exact .inr ⟨file.2.1, t, u, rfl, rfl, hR⟩

namespace Agrees

variable {files : Set Location} {p draft : Path} {t u : FileTree} {loc : Location}

theorem node_eq (h : Agrees R files p) (hR : R t u) : t.node p = u.node p := by
  unfold FileTree.node
  rw [← h.locate_eq t u hR]
  cases hlocate : t.locate p with
  | error cause => rfl
  | ok loc => rw [ok_bind, ok_bind, h.find?_eq t u hR loc (h.mem t u hR loc hlocate)]

theorem file_eq (h : Agrees R files p) (hR : R t u) : t.file p = u.file p := by
  unfold FileTree.file
  rw [h.node_eq hR]

theorem grantChange_eq (h : Agrees R files p) (hR : R t u) (hlocate : t.locate p = .ok loc) :
    t.grantChange loc = u.grantChange loc := by
  unfold FileTree.grantChange
  rw [h.parent_eq t u hR loc hlocate]

/-- The place of a path is in a directory of both trees. -/
theorem hasDirectory_parent (h : Agrees R files p) (hR : R t u) (hlocate : t.locate p = .ok loc) :
    t.HasDirectory loc.dropLast ∧ u.HasDirectory loc.dropLast := by
  obtain ⟨ht, hu⟩ := h.wellFormed t u hR
  exact ⟨ht.hasDirectory_parent hlocate, hu.hasDirectory_parent (h.locate_eq t u hR ▸ hlocate)⟩

theorem put (h : Agrees R files p) (hR : R t u) (hlocate : t.locate p = .ok loc) (hloc : ¬t.HasDirectory loc)
    (bytes : ByteArray) (mode : Nat) : R (t.put loc (.file bytes mode)) (u.put loc (.file bytes mode)) := by
  have hne := FileTree.ne_nil_of_not_hasDirectory hloc
  obtain ⟨ht, hu⟩ := h.hasDirectory_parent hR hlocate
  refine h.edit t u hR loc (h.mem t u hR loc hlocate) hloc ht hu _ _ _ ?_
    (FileTree.edits_put t _ hne) (FileTree.edits_put u _ hne)
  rintro n hn
  obtain rfl := Option.some.inj hn
  rfl

theorem erase (h : Agrees R files p) (hR : R t u) (hlocate : t.locate p = .ok loc)
    (hloc : ¬t.HasDirectory loc) : R (t.erase loc) (u.erase loc) := by
  have hne := FileTree.ne_nil_of_not_hasDirectory hloc
  obtain ⟨ht, hu⟩ := h.hasDirectory_parent hR hlocate
  exact h.edit t u hR loc (h.mem t u hR loc hlocate) hloc ht hu _ _ _ (by simp)
    (FileTree.edits_erase t hne) (FileTree.edits_erase u hne)

/-- A file is moved in both trees. -/
theorem move {source : Path} {place : Location} (hsource : Agrees R files source) (h : Agrees R files p)
    (hR : R t u) (hlocate : t.locate source = .ok loc) (hloc : ¬t.HasDirectory loc)
    (hplace : t.locate p = .ok place) (hfree : ¬t.HasDirectory place) (bytes : ByteArray) (mode : Nat) :
    R ((t.erase loc).put place (.file bytes mode)) ((u.erase loc).put place (.file bytes mode)) := by
  have hloc' : ¬u.HasDirectory loc := by
    rintro ⟨_, hmode⟩
    rw [← hsource.find?_eq t u hR loc (hsource.mem t u hR loc hlocate)] at hmode
    exact hloc ⟨_, hmode⟩
  have hne := FileTree.ne_nil_of_not_hasDirectory hfree
  have ht := FileTree.edits_erase t (FileTree.ne_nil_of_not_hasDirectory hloc)
  have hu := FileTree.edits_erase u (FileTree.ne_nil_of_not_hasDirectory hloc)
  obtain ⟨⟨_, hparent⟩, _, hparent'⟩ := h.hasDirectory_parent hR hplace
  refine h.edit _ _ (hsource.erase hR hlocate hloc) place (h.mem t u hR place hplace) (ht.not_hasDirectory hfree)
    ⟨_, ht.find?_directory hloc hparent⟩ ⟨_, hu.find?_directory hloc' hparent'⟩ _ _ _ ?_
    (FileTree.edits_put _ _ hne) (FileTree.edits_put _ _ hne)
  rintro n hn
  obtain rfl := Option.some.inj hn
  rfl

end Agrees

theorem alike_clear {files : Set Location} {p : Path} (h : Agrees R files p) : Alike R (.clear p) := by
  intro t u hR
  have hlocates := h.locate_eq t u hR
  cases hlocate : t.locate p with
  | error cause =>
    exact .inl ⟨cause, by simp [FileTree.execute, hlocate], by simp [FileTree.execute, ← hlocates, hlocate]⟩
  | ok loc =>
    have hfinds := h.find?_eq t u hR loc (h.mem t u hR loc hlocate)
    have hgrants := h.grantChange_eq hR hlocate
    simp only [FileTree.execute, ← hlocates, hlocate, ok_bind, ← hfinds, ← hgrants]
    cases hfind : t.find? loc with
    | none =>
      have hloc := FileTree.not_hasDirectory_of_none hfind
      cases hgrant : t.grantChange loc with
      | error cause => exact .inl ⟨cause, rfl, rfl⟩
      | ok _ => exact .inr ⟨(), _, _, rfl, rfl, h.put hR hlocate hloc _ _⟩
    | some n =>
      cases n with
      | directory mode => exact .inl ⟨_, rfl, rfl⟩
      | file bytes mode =>
        have hloc := FileTree.not_hasDirectory_of_file hfind
        dsimp only
        cases FileTree.grant (FileNode.file bytes mode).mayWrite with
        | error cause => exact .inl ⟨cause, rfl, rfl⟩
        | ok _ => exact .inr ⟨(), _, _, rfl, rfl, h.put hR hlocate hloc _ _⟩

theorem alike_append {files : Set Location} {p : Path} (h : Agrees R files p) (bytes : ByteArray) :
    Alike R (.append p bytes) := by
  intro t u hR
  simp only [FileTree.execute, ← h.file_eq hR]
  cases hfile : t.file p with
  | error cause => exact .inl ⟨cause, rfl, rfl⟩
  | ok file =>
    obtain ⟨loc, old, mode⟩ := file
    obtain ⟨hlocate, hloc⟩ := FileTree.locate_of_file hfile
    exact .inr ⟨(), _, _, rfl, rfl, h.put hR hlocate hloc _ _⟩

theorem alike_remove {files : Set Location} {p : Path} (h : Agrees R files p) : Alike R (.remove p) := by
  intro t u hR
  simp only [FileTree.execute, ← h.file_eq hR, ← h.node_eq hR]
  cases hnode : t.node p with
  | error cause => exact .inl ⟨cause, rfl, rfl⟩
  | ok found =>
    obtain ⟨loc, n⟩ := found
    obtain ⟨hlocate, hfind⟩ := FileTree.node_eq_ok hnode
    simp only [ok_bind, ← h.grantChange_eq hR hlocate]
    cases t.grantChange loc with
    | error cause => exact .inl ⟨cause, rfl, rfl⟩
    | ok _ =>
      cases hfile : t.file p with
      | error cause => exact .inl ⟨cause, rfl, rfl⟩
      | ok file =>
        obtain ⟨place, old, mode⟩ := file
        rw [FileTree.file_eq_ok hfile] at hnode
        obtain ⟨rfl, rfl⟩ := Prod.mk.inj (Except.ok.inj hnode)
        exact .inr ⟨(), _, _, rfl, rfl, h.erase hR hlocate (FileTree.not_hasDirectory_of_file hfind)⟩

theorem alike_rename {files : Set Location} {source p : Path} (hsource : Agrees R files source)
    (h : Agrees R files p) : Alike R (.rename source p) := by
  intro t u hR
  simp only [FileTree.execute, ← hsource.file_eq hR, ← h.locate_eq t u hR]
  cases hfile : t.file source with
  | error cause => exact .inl ⟨cause, rfl, rfl⟩
  | ok file =>
    obtain ⟨loc, bytes, mode⟩ := file
    obtain ⟨hlocate, hloc⟩ := FileTree.locate_of_file hfile
    cases hplace : t.locate p with
    | error cause => exact .inl ⟨cause, rfl, rfl⟩
    | ok place =>
      have hfinds := h.find?_eq t u hR place (h.mem t u hR place hplace)
      simp only [ok_bind, ← hsource.grantChange_eq hR hlocate, ← h.grantChange_eq hR hplace, ← hfinds]
      cases t.grantChange loc with
      | error cause => exact .inl ⟨cause, rfl, rfl⟩
      | ok _ =>
        cases t.grantChange place with
        | error cause => exact .inl ⟨cause, rfl, rfl⟩
        | ok _ =>
          have hmove := fun hfree => hsource.move h hR hlocate hloc hplace hfree bytes mode
          cases hthere : t.find? place with
          | none => exact .inr ⟨(), _, _, rfl, rfl, hmove (FileTree.not_hasDirectory_of_none hthere)⟩
          | some n =>
            cases n with
            | directory mode => exact .inl ⟨_, rfl, rfl⟩
            | file bytes mode =>
              exact .inr ⟨(), _, _, rfl, rfl, hmove (FileTree.not_hasDirectory_of_file hthere)⟩

/-! ## Programs that write files -/

theorem tandem_isThere {p : Path} (h : Alike R (.status p)) : Tandem R (Filing.isThere p) R R := by
  unfold Filing.isThere
  split
  · exact tandem_pure false
  · refine (tandem_attempt h).bind fun answer => ?_
    split
    · exact tandem_pure true
    · exact tandem_pure false
    · exact tandem_pure false
    · exact tandem_throw _

theorem tandem_mayReplace {p : Path} (h : Alike R (.status p)) : Tandem R (Filing.mayReplace p) R R := by
  unfold Filing.mayReplace
  refine (tandem_isThere h).bind fun there => ?_
  split
  · exact tandem_pure true
  · exact (tandem_perform h).bind fun _ => tandem_pure _

theorem tandem_replaceThrough {files : Set Location} {draft p : Path} (hdraft : Agrees R files draft)
    (hp : Agrees R files p) (text : String) : Tandem R (Filing.replaceThrough draft p text) R R := by
  unfold Filing.replaceThrough
  refine Tandem.catch (R := R) ?_ fun b => ?_
  · refine (tandem_perform (alike_clear hdraft)).bind fun _ => ?_
    refine (tandem_perform (alike_append hdraft _)).bind fun _ => ?_
    exact tandem_perform (alike_rename hdraft hp)
  · dsimp only
    split
    · refine Tandem.bind ?_ fun _ => tandem_throw _
      exact (tandem_attempt (alike_remove hdraft)).bind fun _ => tandem_pure ()
    · exact tandem_throw _

/-- What is left of a replacement where the file does not hold the text already. -/
def Filing.writeOver (p : Path) (text : String) : Filing Bool := do
  let draft ← lift (p.withName (p.name ++ ".tmp"))
  replaceThrough draft p text
  return true

/-- A path without parts has no draft. -/
theorem Filing.writeOver_eq (p : Path) (text : String) : writeOver p text =
    if p.parts = [] then lift (.error .wrongContent) else do replaceThrough p.draft p text; return true := by
  unfold writeOver Path.withName
  split <;> rfl

/-- What is done to replace a file, once the way to it is made. -/
def Filing.replaceThere (p : Path) (text : String) : Filing Bool := do
  if ← isThere p then
    let old ← readText p
    if old = text then return false
  let draft ← lift (p.withName (p.name ++ ".tmp"))
  replaceThrough draft p text
  return true

theorem Filing.replaceThere_eq (p : Path) (text : String) : replaceThere p text = (do
    if ← isThere p then
      if (← readText p) = text then return false else writeOver p text
    else writeOver p text) := rfl

theorem Filing.replace_eq (p : Path) (text : String) :
    replace p text = ensureDirectories p.root p.parent.parts.reverse >>= fun _ => replaceThere p text := rfl

/-- A file is replaced in tandem if the directories that lead to it are made, and the trees then agree about it
and its draft. -/
theorem tandem_replace {files : Set Location} {p : Path}
    (hways : Tandem P (Filing.ensureDirectories p.root p.parent.parts.reverse) Q R)
    (hp : Agrees Q files p) (hdraft : Agrees Q files p.draft) (hQ : ∀ t u, Q t u → R t u) (text : String) :
    Tandem P (Filing.replace p text) R R := by
  have hstatus : Alike Q (.status p) := alike_status fun t u hQ => hp.node_eq hQ
  have hread : Tandem Q (Filing.readText p) Q Q := by
    refine (tandem_perform (alike_read fun t u hQ => hp.node_eq hQ)).bind fun bytes => ?_
    exact tandem_lift _
  have hrest : Tandem Q (Filing.writeOver p text) Q Q := by
    rw [Filing.writeOver_eq]
    split
    · exact tandem_lift _
    · exact (tandem_replaceThrough hdraft hp text).bind fun _ => tandem_pure true
  rw [Filing.replace_eq, Filing.replaceThere_eq]
  refine hways.bind fun _ => ?_
  refine Tandem.imp (R := Q) (Q := Q) ?_ (fun _ _ h => h) hQ hQ
  refine (tandem_isThere hstatus).bind fun there => ?_
  split
  · refine hread.bind fun old => ?_
    split
    · exact tandem_pure false
    · exact hrest
  · exact hrest

theorem tandem_deliver {p : Path} {text : String} (hmay : Tandem P (Filing.mayReplace p) Q R)
    (hreplace : Tandem Q (Filing.replace p text) R R) (hQ : ∀ t u, Q t u → R t u) :
    Tandem P (Fate.deliver p text) R R := by
  unfold Fate.deliver
  refine Tandem.catch (R := R) ?_ fun b => ?_
  · refine hmay.bind fun may => ?_
    split
    · refine hreplace.bind fun changed => ?_
      split <;> exact tandem_pure _
    · exact (tandem_pure _).imp (fun _ _ h => h) hQ hQ
  · split
    · exact tandem_pure _
    · exact tandem_throw _

end ShaderRecords

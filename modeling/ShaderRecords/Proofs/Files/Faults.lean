/-
ShaderRecords.Proofs.Files.Faults — programs on a file system that may fail at any step.

`FileTree.MayAnswer` says how a command may be answered: as the tree answers it, or by a failure of any kind. A
failed command leaves the tree as it is, but for two that may fail half-way: a file may have been made empty, and a
front of the bytes may have been added to one. `FileProgram.Runs` relates a program to the steps that it may take;
whatever its exchanges and its result are in all cases (`FileProgram.Ends`), they are in each of these runs.

What a command may do to the tree is bounded by the places that it works on, also when it fails
(`FileTree.MayAnswer.grows`). A run all of whose commands keep to some places changes nothing elsewhere, at no time
(`FileProgram.Runs.grows`).
-/
import ShaderRecords.Proofs.Files.Commands
import ShaderRecords.Proofs.Files.Exchanges

namespace ShaderRecords

/-! ## Answers -/

namespace FileTree

/-- Whether a command that fails may leave a tree, where it has been carried out in part. -/
def MayInterrupt (t : FileTree) (c : FileCommand) (t' : FileTree) : Prop :=
  match c with
  | .clear p => t.execute (.clear p) = .ok ((), t')
  | .append p bytes => ∃ n, t.execute (.append p (bytes.extract 0 n)) = .ok ((), t')
  | _ => False

/-- Whether a command may be answered so, and leave a tree. -/
def MayAnswer (t : FileTree) (c : FileCommand) (answer : c.Answer) (t' : FileTree) : Prop :=
  match answer with
  | .ok x => t.execute c = .ok (x, t')
  | .error _ => t' = t ∨ t.MayInterrupt c t'

end FileTree

/-! ## Runs -/

/-- A command with what it was answered, and the tree that it has left. -/
structure FileStep where
  exchange : Exchange
  tree : FileTree

/-- The tree that steps leave. -/
def FileTree.afterSteps (t : FileTree) (steps : List FileStep) : FileTree :=
  steps.foldl (fun _ step => step.tree) t

@[simp] theorem FileTree.afterSteps_nil (t : FileTree) : t.afterSteps [] = t := rfl

namespace FileProgram

variable {α β : Type} {x : FileProgram α} {t : FileTree} {steps : List FileStep} {a : α}

/-- Whether a program may take these steps on a tree, and then give this. -/
def Runs : FileProgram α → FileTree → List FileStep → α → Prop
  | done x, _, steps, a => steps = [] ∧ a = x
  | ask c next, t, steps, a => ∃ answer u rest, t.MayAnswer c answer u ∧ steps = ⟨⟨c, answer⟩, u⟩ :: rest
      ∧ (next answer).Runs u rest a

/-- What holds of the exchanges and the result of a program in all cases holds in each of its runs. -/
theorem Ends.runs {P : List Exchange → α → Prop} (h : x.Ends P) (hx : x.Runs t steps a) :
    P (steps.map FileStep.exchange) a := by
  induction x generalizing P t steps with
  | done x =>
    obtain ⟨rfl, rfl⟩ := hx
    exact h
  | ask c next ih =>
    obtain ⟨answer, u, rest, -, rfl, hrest⟩ := hx
    exact ih answer (P := fun es a => P (⟨c, answer⟩ :: es) a) (h answer) hrest

end FileProgram

namespace Filing

variable {α β : Type} {t : FileTree} {steps : List FileStep}

/-- Whether a program may take these steps on a tree, and then end so. -/
def Runs (x : Filing α) (t : FileTree) (steps : List FileStep) (result : Except Breakdown α) : Prop :=
  x.run.Runs t steps result

theorem Ends.runs {x : Filing α} {P : List Exchange → Except Breakdown α → Prop} {result : Except Breakdown α}
    (h : x.Ends P) (hx : x.Runs t steps result) : P (steps.map FileStep.exchange) result :=
  FileProgram.Ends.runs h hx

end Filing

/-! ## Places that commands work on -/

namespace FileTree

variable {t t' u : FileTree} {files dirs : Set Location} {p : Path} {loc : Location} {c : FileCommand}

/-- Whether a command keeps to some files and directories: it works on no other file, and makes no other
directory. Renaming works on files only if it does not fail. -/
def KeepsTo (t : FileTree) (files dirs : Set Location) : Exchange → Prop
  | ⟨.makeDirectory p, _⟩ => t.locationOf p ∈ dirs
  | ⟨.clear p, _⟩ | ⟨.append p _, _⟩ | ⟨.remove p, _⟩ => t.locationOf p ∈ files
  | ⟨.rename source target, .ok _⟩ => t.locationOf source ∈ files ∧ t.locationOf target ∈ files
  | _ => True

theorem keepsTo_congr (h : t.here = t'.here) (e : Exchange) : t.KeepsTo files dirs e ↔ t'.KeepsTo files dirs e := by
  obtain ⟨c, answer⟩ := e
  cases c with
  | rename => cases answer <;> simp [KeepsTo, locationOf_congr h]
  | _ => simp [KeepsTo, locationOf_congr h]

/-- A file that is edited where a path leads is one of the files. -/
theorem grows_edit (ht : t.WellFormed) (hlocate : t.locate p = .ok loc) (hp : t.locationOf p ∈ files)
    (hfree : ¬t.HasDirectory loc) {n? : Option FileNode} (hedits : t.Edits loc n? t') : t.Grows files dirs t' := by
  obtain rfl := locate_eq_ok hlocate
  exact hedits.grows ht hp hfree (ht.hasDirectory_parent hlocate)

/-- A command that is carried out keeps to its files and directories. -/
theorem grows_execute (ht : t.WellFormed) {x : c.Result} (h : t.execute c = .ok (x, t'))
    (hkeeps : t.KeepsTo files dirs ⟨c, .ok x⟩) : t.Grows files dirs t' := by
  cases c with
  | status p =>
    obtain rfl := execute_status_eq_ok h
    exact ht.grows _ _
  | read p =>
    obtain ⟨rfl, -⟩ := execute_read_eq_ok h
    exact ht.grows _ _
  | makeDirectory p =>
    obtain ⟨loc, hlocate, hnone, hgrant, rfl⟩ := execute_makeDirectory_eq_ok h
    have hparent := ht.hasDirectory_parent hlocate
    obtain rfl := locate_eq_ok hlocate
    exact grows_makeDirectory ht hkeeps hnone hparent hgrant
  | clear p =>
    obtain ⟨loc, mode, hlocate, hfree, hedits⟩ := execute_clear_eq_ok h
    exact grows_edit ht hlocate hkeeps hfree hedits
  | append p bytes =>
    obtain ⟨loc, old, mode, hfile, hedits⟩ := execute_append_eq_ok h
    obtain ⟨hlocate, hfree⟩ := locate_of_file hfile
    exact grows_edit ht hlocate hkeeps hfree hedits
  | rename source target =>
    obtain ⟨loc, bytes, mode, place, u, hfile, hplace, hfree, herased, hput⟩ := execute_rename_eq_ok h
    obtain ⟨hlocate, hsource⟩ := locate_of_file hfile
    have hgrows : t.Grows files dirs u := grows_edit ht hlocate hkeeps.1 hsource herased
    have htarget : u.locationOf target ∈ files := locationOf_congr herased.here_eq target ▸ hkeeps.2
    exact hgrows.trans <|
      grows_edit hgrows.wellFormed (hgrows.locate hplace) htarget (herased.not_hasDirectory hfree) hput
  | remove p =>
    obtain ⟨loc, bytes, mode, hfile, hedits⟩ := execute_remove_eq_ok h
    obtain ⟨hlocate, hfree⟩ := locate_of_file hfile
    exact grows_edit ht hlocate hkeeps hfree hedits

/-- A command keeps to its files and directories, also when it fails. -/
theorem MayAnswer.grows (ht : t.WellFormed) {answer : c.Answer} (h : t.MayAnswer c answer t')
    (hkeeps : t.KeepsTo files dirs ⟨c, answer⟩) : t.Grows files dirs t' := by
  cases answer with
  | ok x => exact grows_execute ht h hkeeps
  | error cause =>
    rcases h with rfl | h
    · exact ht.grows _ _
    · -- What is left half-way has been left by a command that was carried out at the same path.
      cases c with
      | clear p => exact grows_execute (c := .clear p) ht h hkeeps
      | append p bytes =>
        obtain ⟨n, h⟩ := h
        exact grows_execute (c := .append p (bytes.extract 0 n)) ht h hkeeps
      | _ => exact absurd h not_false

end FileTree

/-- A run whose commands keep to some files and directories changes nothing else, however far it has got. -/
theorem FileProgram.Runs.grows {α : Type} {x : FileProgram α} {t : FileTree} {steps before : List FileStep} {a : α}
    {files dirs : Set Location} (ht : t.WellFormed) (h : x.Runs t steps a)
    (hkeeps : ∀ step ∈ steps, t.KeepsTo files dirs step.exchange) (hbefore : before <+: steps) :
    t.Grows files dirs (t.afterSteps before) := by
  induction x generalizing t steps before with
  | done x =>
    obtain ⟨rfl, rfl⟩ := h
    rw [List.prefix_nil.mp hbefore]
    exact ht.grows _ _
  | ask c next ih =>
    obtain ⟨answer, u, rest, hanswer, rfl, hrest⟩ := h
    obtain ⟨hfirst, hlater⟩ := List.forall_mem_cons.mp hkeeps
    rcases List.prefix_cons_iff.mp hbefore with rfl | ⟨before, rfl, hprefix⟩
    · exact ht.grows _ _
    · have hgrows := hanswer.grows ht hfirst
      exact hgrows.trans <| ih answer hgrows.wellFormed hrest
        (fun step hstep => (FileTree.keepsTo_congr hgrows.here_eq _).mpr (hlater step hstep)) hprefix

end ShaderRecords

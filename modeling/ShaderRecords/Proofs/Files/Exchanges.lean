/-
ShaderRecords.Proofs.Files.Exchanges — what programs on files may run into.

An exchange is a command with its answer. `FileProgram.Ends` says of a program that its exchanges and its result
are related in some way, whatever it is answered; a program whose commands are answered from a state ends so as
well (`FileProgram.Ends.run`). The rules follow the program.

`Filing.IsOrderly` relates the exchanges and the result of a program that works on one file. It breaks down on
bytes exactly if it has read bytes of the file that are no text, and in no other way but by a failure of the file
system, unless the path of the file cannot be used at all. The programs that write files end so.
-/
import ShaderRecords.Proofs.Files.Directories

namespace ShaderRecords

/-- A command with what it was answered. -/
abbrev Exchange : Type :=
  (c : FileCommand) × c.Answer

namespace FileProgram

variable {α β σ : Type}

/-- Whether the exchanges and the result of a program are related by `P`, whatever it is answered. -/
def Ends : FileProgram α → (List Exchange → α → Prop) → Prop
  | done x, P => P [] x
  | ask c next, P => ∀ answer, (next answer).Ends fun es x => P (⟨c, answer⟩ :: es) x

/-- What a program gives when its commands are answered from a state. -/
def outcome (handle : (c : FileCommand) → StateM σ c.Answer) (x : FileProgram α) (s : σ) : α :=
  ((x.runWith handle).run s).1

/-- A program after another is answered from the state that the other one leaves. -/
theorem outcome_andThen (handle : (c : FileCommand) → StateM σ c.Answer) (x : FileProgram α)
    (f : α → FileProgram β) (s : σ) : (x.andThen f).outcome handle s
      = (f (x.outcome handle s)).outcome handle ((x.runWith handle).run s).2 := by
  unfold outcome
  rw [runWith_andThen]
  rfl

/-- The exchanges of a program whose commands are answered from a state. -/
def exchanges (handle : (c : FileCommand) → StateM σ c.Answer) : FileProgram α → σ → List Exchange
  | done _, _ => []
  | ask c next, s => ⟨c, (handle c s).1⟩ :: (next (handle c s).1).exchanges handle (handle c s).2

theorem Ends.imp {x : FileProgram α} {P Q : List Exchange → α → Prop} (h : x.Ends P)
    (hPQ : ∀ es a, P es a → Q es a) : x.Ends Q := by
  induction x generalizing P Q with
  | done x => exact hPQ [] x h
  | ask c next ih => exact fun answer => ih answer (h answer) fun es a => hPQ _ a

theorem Ends.and {x : FileProgram α} {P Q : List Exchange → α → Prop} (hP : x.Ends P) (hQ : x.Ends Q) :
    x.Ends fun es a => P es a ∧ Q es a := by
  induction x generalizing P Q with
  | done x => exact ⟨hP, hQ⟩
  | ask c next ih => exact fun answer => ih answer (hP answer) (hQ answer)

theorem ends_of_forall {x : FileProgram α} {P : List Exchange → α → Prop} (h : ∀ es a, P es a) : x.Ends P := by
  induction x generalizing P with
  | done x => exact h [] x
  | ask c next ih => exact fun answer => ih answer fun es a => h _ a

/-- A program after another has its exchanges after those of the other. -/
theorem ends_andThen {x : FileProgram α} {f : α → FileProgram β} {P : List Exchange → β → Prop} :
    (x.andThen f).Ends P ↔ x.Ends fun es a => (f a).Ends fun es' b => P (es ++ es') b := by
  induction x generalizing P with
  | done x => rfl
  | ask c next ih => exact forall_congr' fun answer => ih answer

/-- Whatever answers the commands of a program, it ends as it does with all answers. -/
theorem Ends.run {x : FileProgram α} {P : List Exchange → α → Prop} (h : x.Ends P)
    (handle : (c : FileCommand) → StateM σ c.Answer) (s : σ) :
    P (x.exchanges handle s) (x.outcome handle s) := by
  induction x generalizing P s with
  | done x => exact h
  | ask c next ih => exact ih _ (h _) _

end FileProgram

/-! ## Programs that can break down -/

namespace Filing

variable {α β : Type} {P : List Exchange → Except Breakdown β → Prop}

/-- Whether the exchanges and the result of a program are related by `P`, whatever it is answered. -/
def Ends (x : Filing α) (P : List Exchange → Except Breakdown α → Prop) : Prop :=
  x.run.Ends P

theorem Ends.imp {x : Filing α} {P Q : List Exchange → Except Breakdown α → Prop} (h : x.Ends P)
    (hPQ : ∀ es result, P es result → Q es result) : x.Ends Q :=
  FileProgram.Ends.imp h hPQ

theorem Ends.and {x : Filing α} {P Q : List Exchange → Except Breakdown α → Prop} (hP : x.Ends P)
    (hQ : x.Ends Q) : x.Ends fun es result => P es result ∧ Q es result :=
  FileProgram.Ends.and hP hQ

theorem ends_bind {x : Filing α} {f : α → Filing β} :
    (x >>= f).Ends P ↔ x.Ends fun es result => match result with
      | .ok a => (f a).Ends fun es' result' => P (es ++ es') result'
      | .error b => P es (.error b) := by
  have hrun : (x >>= f).run = x.run.andThen (ExceptT.bindCont f) := rfl
  rw [Ends, hrun, FileProgram.ends_andThen]
  refine ⟨fun h => h.imp fun es result h => ?_, fun h => h.imp fun es result h => ?_⟩
  · cases result with
    | ok a => exact h
    | error b =>
      have hthrow : P (es ++ []) (.error b) := h
      rwa [List.append_nil] at hthrow
  · cases result with
    | ok a => exact h
    | error b =>
      show P (es ++ []) (.error b)
      rwa [List.append_nil]

theorem ends_tryCatch {x : Filing β} {handler : Breakdown → Filing β} :
    (tryCatch x handler).Ends P ↔ x.Ends fun es result => match result with
      | .ok a => P es (.ok a)
      | .error b => (handler b).Ends fun es' result' => P (es ++ es') result' := by
  show (x.run.andThen _).Ends P ↔ _
  rw [FileProgram.ends_andThen]
  refine ⟨fun h => h.imp fun es result h => ?_, fun h => h.imp fun es result h => ?_⟩
  · cases result with
    | error b => exact h
    | ok a =>
      have hpure : P (es ++ []) (.ok a) := h
      rwa [List.append_nil] at hpure
  · cases result with
    | error b => exact h
    | ok a =>
      show P (es ++ []) (.ok a)
      rwa [List.append_nil]

/-- Whether whatever a program gives has a property. -/
def Yields (x : Filing β) (Q : β → Prop) : Prop :=
  x.Ends fun _ result => ∀ b, result = .ok b → Q b

theorem yields_pure {b : β} {Q : β → Prop} (h : Q b) : Yields (pure b) Q :=
  fun _ hb => Except.ok.inj hb ▸ h

theorem yields_lift (x : Except Breakdown β) : Yields (lift x) fun b => x = .ok b :=
  fun _ hb => hb

/-- Whatever a program gives is nothing in particular. -/
theorem yields_any (x : Filing β) : Yields x fun _ => True :=
  FileProgram.ends_of_forall fun _ _ _ _ => trivial

/-- What is given in the end has a property if it has it for whatever may have been given before. -/
theorem Yields.bind {x : Filing α} {f : α → Filing β} {P : α → Prop} {Q : β → Prop} (hx : Yields x P)
    (hf : ∀ a, P a → Yields (f a) Q) : Yields (x >>= f) Q := by
  refine ends_bind.mpr (hx.imp fun es result h => ?_)
  cases result with
  | ok a => exact hf a (h a rfl)
  | error b => exact fun _ hb => by cases hb

/-- A command is given if its path can be. -/
theorem ends_attempt {c : FileCommand} {P : List Exchange → Except Breakdown c.Answer → Prop}
    (hgiven : IsNameable c.path → ∀ answer, P [⟨c, answer⟩] (.ok answer))
    (hnot : ¬IsNameable c.path → P [] (.error .wrongContent)) : (attempt c).Ends P := by
  unfold attempt
  split
  next h => exact hnot (by simpa [IsNameable] using h)
  next h => exact hgiven (by simpa [IsNameable] using h)

/-! ## Paths that can name a file -/

/-- Parts joined by slashes have a null character only if one of the parts has. -/
theorem null_notMem_intercalate_iff {parts : List String} :
    '\x00' ∉ ("/".intercalate parts).toList ↔ ∀ part ∈ parts, '\x00' ∉ part.toList := by
  induction parts with
  | nil => simp
  | cons part parts ih =>
    cases parts with
    | nil => simp
    | cons next parts =>
      rw [String.intercalate_cons_cons, List.forall_mem_cons, ← ih]
      simp

/-- A path can be given to the file system if none of its parts has a null character. -/
theorem isNameable_iff {p : Path} :
    IsNameable p ↔ '\x00' ∉ p.root.toList ∧ ∀ part ∈ p.parts, '\x00' ∉ part.toList := by
  unfold IsNameable Path.display
  rw [List.contains_eq_mem, decide_eq_false_iff_not]
  split
  next hpoint => simp [hpoint.1, hpoint.2]
  next => rw [String.toList_append, List.mem_append, not_or, null_notMem_intercalate_iff]

/-- Whether a path can name a file: it can be given to the file system, and has a name. -/
def NamesFile (p : Path) : Prop :=
  IsNameable p ∧ p.parts ≠ []

theorem NamesFile.parent {p : Path} (h : NamesFile p) : IsNameable p.parent := by
  obtain ⟨hroot, hparts⟩ := isNameable_iff.mp h.1
  exact isNameable_iff.mpr ⟨hroot, fun part hpart => hparts part ((List.dropLast_sublist _).subset hpart)⟩

theorem NamesFile.draft {p : Path} (h : NamesFile p) : IsNameable p.draft := by
  obtain ⟨hroot, hparts⟩ := isNameable_iff.mp h.1
  refine isNameable_iff.mpr ⟨hroot, fun part hpart => ?_⟩
  rw [Path.draft, Path.sibling, List.mem_append, List.mem_singleton] at hpart
  rcases hpart with hpart | rfl
  · exact hparts part ((List.dropLast_sublist _).subset hpart)
  · have hname : p.name ∈ p.parts := by
      rw [Path.name, List.getLastD_eq_getLast?, List.getLast?_eq_some_getLast h.2]
      exact List.getLast_mem h.2
    rw [String.toList_append, List.mem_append, not_or]
    exact ⟨hparts _ hname, by decide⟩

/-- Where the draft of a file can be given, the file can be named. -/
theorem NamesFile.of_draft {p : Path} (h : IsNameable p.draft) (hparts : p.parts ≠ []) : NamesFile p := by
  obtain ⟨hroot, hall⟩ := isNameable_iff.mp h
  refine ⟨isNameable_iff.mpr ⟨hroot, fun part hpart => ?_⟩, hparts⟩
  have hlast : '\x00' ∉ (p.name ++ ".tmp").toList := hall _ (by simp [Path.draft, Path.sibling])
  rw [← List.dropLast_concat_getLast hparts, List.mem_append, List.mem_singleton] at hpart
  rcases hpart with hpart | rfl
  · exact hall part (by simp [Path.draft, Path.sibling, hpart])
  · rw [Path.name, List.getLastD_eq_getLast?, List.getLast?_eq_some_getLast hparts, String.toList_append,
      List.mem_append, not_or] at hlast
    exact hlast.1

/-! ## Programs that work on one file -/

/-- Whether an exchange has brought bytes that are no text. -/
def IsUndecodable (e : Exchange) : Prop :=
  ∃ p bytes, e = ⟨.read p, .ok bytes⟩ ∧ String.fromUTF8? bytes = none

variable {p q : Path} {es es' : List Exchange}

/-- How a program that works on one file ends: it reads no other file, it breaks down on bytes exactly if it has
read some that are no text, and it breaks down in no other way but by a failure of the file system, or because the
path cannot name a file. -/
structure IsOrderly (p : Path) (es : List Exchange) (result : Except Breakdown α) : Prop where
  undecodable_iff : result = .error .undecodableText ↔ ∃ e ∈ es, IsUndecodable e
  path_of_read : ∀ q answer, (⟨.read q, answer⟩ : Exchange) ∈ es → q = p
  breakdown : ∀ b, result = .error b →
    (∃ e, b = .file e) ∨ b = .undecodableText ∨ b = .wrongContent ∧ ¬NamesFile p

namespace IsOrderly

/-- What is orderly without reading. -/
theorem of_unread {result : Except Breakdown α} (hread : ∀ q answer, (⟨.read q, answer⟩ : Exchange) ∉ es)
    (hbroken : ∀ b, result = .error b → (∃ e, b = .file e) ∨ b = .wrongContent ∧ ¬NamesFile p) :
    IsOrderly p es result where
  undecodable_iff := by
    constructor
    · intro h
      rcases hbroken _ h with ⟨e, he⟩ | ⟨he, -⟩ <;> cases he
    · rintro ⟨_, he, q, bytes, rfl, -⟩
      exact absurd he (hread q _)
  path_of_read q answer h := absurd h (hread q answer)
  breakdown b h := (hbroken b h).imp_right .inr

/-- What has been given has not been read from bytes that are no text, so those that have been read come later. -/
theorem exists_undecodable_append {a : α} (h : IsOrderly p es (.ok a)) :
    (∃ e ∈ es ++ es', IsUndecodable e) ↔ ∃ e ∈ es', IsUndecodable e := by
  have hnone : ¬∃ e ∈ es, IsUndecodable e := fun hread => by cases h.undecodable_iff.mpr hread
  constructor
  · rintro ⟨e, he, hbad⟩
    exact (List.mem_append.mp he).elim (fun he => absurd ⟨e, he, hbad⟩ hnone) fun he => ⟨e, he, hbad⟩
  · rintro ⟨e, he, hbad⟩
    exact ⟨e, List.mem_append_right _ he, hbad⟩

/-- An orderly program may go on in an orderly way. -/
theorem append {a : α} {result : Except Breakdown β} (h : IsOrderly p es (.ok a))
    (h' : IsOrderly p es' result) : IsOrderly p (es ++ es') result where
  undecodable_iff := h'.undecodable_iff.trans h.exists_undecodable_append.symm
  path_of_read q answer he := (List.mem_append.mp he).elim (h.path_of_read q answer) (h'.path_of_read q answer)
  breakdown := h'.breakdown

theorem error {b : Breakdown} (h : IsOrderly p es (.error b : Except Breakdown α)) :
    IsOrderly p es (.error b : Except Breakdown β) where
  undecodable_iff := by
    rw [← h.undecodable_iff]
    simp
  path_of_read := h.path_of_read
  breakdown b' hb' := h.breakdown b' (by rw [Except.error.inj hb'])

end IsOrderly

/-- Whether a program works on one file. -/
def WorksOn (p : Path) (x : Filing α) : Prop :=
  x.Ends (IsOrderly p)

theorem worksOn_pure (a : α) : WorksOn p (pure a : Filing α) :=
  IsOrderly.of_unread (by simp) (by simp)

theorem worksOn_failed (e : FileError) : WorksOn p (throw (.file e) : Filing α) :=
  IsOrderly.of_unread (by simp) fun b hb => .inl ⟨e, (Except.error.inj hb).symm⟩

theorem WorksOn.bind {x : Filing α} {f : α → Filing β} (hx : WorksOn p x) (hf : ∀ a, WorksOn p (f a)) :
    WorksOn p (x >>= f) := by
  refine ends_bind.mpr (hx.imp fun es result h => ?_)
  cases result with
  | ok a => exact (hf a).imp fun es' result' h' => h.append h'
  | error b => exact h.error

/-- What is done about a failure is orderly if it is done in an orderly way, and if other breakdowns are passed
on. -/
theorem WorksOn.catch {x : Filing α} {handler : Breakdown → Filing α} (hx : WorksOn p x)
    (hhandler : ∀ e, WorksOn p (handler (.file e))) (hother : ∀ b, (∀ e, b ≠ .file e) → handler b = throw b) :
    WorksOn p (tryCatch x handler) := by
  refine ends_tryCatch.mpr (hx.imp fun es result h => ?_)
  cases result with
  | ok a => exact h
  | error b =>
    by_cases hfile : ∃ e, b = .file e
    · obtain ⟨e, rfl⟩ := hfile
      have hread : IsOrderly p es (.ok () : Except Breakdown Unit) := by
        refine ⟨?_, h.path_of_read, by simp⟩
        rw [← h.undecodable_iff]
        simp
      exact (hhandler e).imp fun es' result' h' => hread.append h'
    · change (handler b).Ends _
      rw [hother b fun e he => hfile ⟨e, he⟩]
      show IsOrderly p (es ++ []) (.error b)
      rwa [List.append_nil]

/-- A command that reads nothing, at a path that can be given if the file can have its name. -/
theorem worksOn_attempt {c : FileCommand} (hread : ∀ q, c ≠ .read q) (hname : NamesFile p → IsNameable c.path) :
    WorksOn p (attempt c) := by
  refine ends_attempt (fun _ answer => ?_) fun h => ?_
  · refine .of_unread (fun q answer' he => ?_) (by simp)
    cases List.mem_singleton.mp he
    exact hread q rfl
  · refine .of_unread (by simp) fun b hb => .inr ⟨(Except.error.inj hb).symm, fun hp => h (hname hp)⟩

theorem worksOn_perform {c : FileCommand} (hread : ∀ q, c ≠ .read q) (hname : NamesFile p → IsNameable c.path) :
    WorksOn p (perform c) := by
  unfold perform
  refine (worksOn_attempt hread hname).bind fun answer => ?_
  cases answer with
  | ok x => exact worksOn_pure x
  | error cause => exact worksOn_failed _

theorem worksOn_isThere (p q : Path) : WorksOn p (isThere q) := by
  unfold isThere
  split
  · exact worksOn_pure false
  next h =>
    have hname : IsNameable q := by simpa [IsNameable] using h
    refine (worksOn_attempt (c := .status q) (by simp) fun _ => hname).bind fun answer => ?_
    cases answer with
    | ok s => exact worksOn_pure true
    | error cause =>
      cases cause with
      | notFound => exact worksOn_pure false
      | notDirectory => exact worksOn_pure false
      | _ => exact worksOn_failed _

theorem worksOn_isDirectory (hname : NamesFile p → IsNameable q) : WorksOn p (isDirectory q) := by
  unfold isDirectory
  refine (worksOn_attempt (c := .status q) (by simp) hname).bind fun answer => ?_
  split
  · exact worksOn_pure _
  · exact worksOn_pure false
  · exact worksOn_pure false
  · exact worksOn_failed _

theorem worksOn_ensureDirectory (hname : NamesFile p → IsNameable q) : WorksOn p (ensureDirectory q) := by
  unfold ensureDirectory
  refine (worksOn_attempt (c := .makeDirectory q) (by simp) hname).bind fun answer => ?_
  split
  · exact worksOn_pure ()
  · exact worksOn_failed _
  · refine (worksOn_isDirectory hname).bind fun isDirectory => ?_
    split
    · exact worksOn_failed _
    · exact worksOn_pure ()

theorem worksOn_ensureDirectories {root : String} {parts : List String}
    (hname : NamesFile p → IsNameable ⟨root, parts.reverse⟩) : WorksOn p (ensureDirectories root parts) := by
  induction parts with
  | nil => exact worksOn_ensureDirectory hname
  | cons last before ih =>
    unfold ensureDirectories
    refine (worksOn_attempt (c := .makeDirectory _) (by simp) hname).bind fun answer => ?_
    split
    · exact worksOn_pure ()
    · refine (ih fun hp => ?_).bind fun _ => worksOn_ensureDirectory hname
      obtain ⟨hroot, hparts⟩ := isNameable_iff.mp (hname hp)
      refine isNameable_iff.mpr ⟨hroot, fun part hpart => hparts part ?_⟩
      rw [List.reverse_cons]
      exact List.mem_append_left _ hpart
    · refine (worksOn_isDirectory hname).bind fun isDirectory => ?_
      split
      · exact worksOn_failed _
      · exact worksOn_pure ()

/-- The file is read at once, or not at all. -/
theorem ends_perform_read (p : Path) : (perform (.read p)).Ends fun es result => match result with
    | .ok bytes => es = [⟨.read p, .ok bytes⟩]
    | .error b => IsOrderly p es (.error b : Except Breakdown Unit) := by
  unfold perform
  refine ends_bind.mpr (ends_attempt (fun _ answer => ?_) fun hnot => ?_)
  · cases answer with
    | ok bytes => rfl
    | error cause =>
      refine ⟨⟨(by rintro ⟨⟩), ?_⟩, fun q answer he => ?_, fun b hb => .inl ⟨_, (Except.error.inj hb).symm⟩⟩
      · rintro ⟨_, he, q, bytes, rfl, -⟩
        cases List.mem_singleton.mp he
      · cases List.mem_singleton.mp he
        rfl
  · exact .of_unread (by simp) fun b hb => .inr ⟨(Except.error.inj hb).symm, fun hp => hnot hp.1⟩

/-- Reading the file is the one step that may meet bytes that are no text. -/
theorem worksOn_readText (p : Path) : WorksOn p (readText p) := by
  unfold readText
  refine ends_bind.mpr ((ends_perform_read p).imp fun es result h => ?_)
  cases result with
  | error b => exact h.error
  | ok bytes =>
    obtain rfl : es = [⟨.read p, .ok bytes⟩] := h
    show IsOrderly p [⟨.read p, .ok bytes⟩] (textOf bytes)
    have hread : ∀ q answer, (⟨.read q, answer⟩ : Exchange) ∈ [(⟨.read p, .ok bytes⟩ : Exchange)] → q = p := by
      intro q answer he
      cases List.mem_singleton.mp he
      rfl
    have hbad : (∃ e ∈ [(⟨.read p, .ok bytes⟩ : Exchange)], IsUndecodable e) ↔ String.fromUTF8? bytes = none := by
      constructor
      · rintro ⟨_, he, q, bytes', rfl, hnone⟩
        cases List.mem_singleton.mp he
        exact hnone
      · exact fun hnone => ⟨_, List.mem_singleton_self _, p, bytes, rfl, hnone⟩
    unfold textOf
    cases hbytes : String.fromUTF8? bytes with
    | none =>
      exact ⟨⟨fun _ => hbad.mpr hbytes, fun _ => rfl⟩, hread, fun b hb => .inr (.inl (Except.error.inj hb).symm)⟩
    | some s =>
      exact ⟨⟨(by rintro ⟨⟩), fun h => by rw [hbad.mp h] at hbytes; cases hbytes⟩, hread, by simp⟩

theorem worksOn_replaceThrough (p : Path) (text : String) : WorksOn p (replaceThrough p.draft p text) := by
  unfold replaceThrough
  refine WorksOn.catch ?_ (fun e => ?_) fun b hb => ?_
  · refine (worksOn_perform (c := .clear p.draft) (by simp) NamesFile.draft).bind fun _ => ?_
    refine (worksOn_perform (c := .append p.draft _) (by simp) NamesFile.draft).bind fun _ => ?_
    exact worksOn_perform (c := .rename p.draft p) (by simp) NamesFile.draft
  · refine WorksOn.bind ?_ fun _ => worksOn_failed e
    exact (worksOn_attempt (c := .remove p.draft) (by simp) NamesFile.draft).bind fun _ => worksOn_pure ()
  · cases b <;> first | rfl | exact absurd rfl (hb _)

theorem worksOn_replace (p : Path) (text : String) : WorksOn p (replace p text) := by
  have hparent : NamesFile p → IsNameable ⟨p.root, p.parent.parts.reverse.reverse⟩ := by
    rw [List.reverse_reverse]
    exact NamesFile.parent
  have hrest : WorksOn p (writeOver p text) := by
    rw [writeOver_eq]
    split
    next hparts => exact .of_unread (by simp) fun b hb => .inr ⟨(Except.error.inj hb).symm, fun hp => hp.2 hparts⟩
    next => exact (worksOn_replaceThrough p text).bind fun _ => worksOn_pure true
  rw [replace_eq, replaceThere_eq]
  refine (worksOn_ensureDirectories hparent).bind fun _ => ?_
  refine (worksOn_isThere p p).bind fun there => ?_
  split
  · refine (worksOn_readText p).bind fun old => ?_
    split
    · exact worksOn_pure false
    · exact hrest
  · exact hrest

theorem worksOn_mayReplace (p : Path) : WorksOn p (mayReplace p) := by
  unfold mayReplace
  refine (worksOn_isThere p p).bind fun there => ?_
  split
  · exact worksOn_pure true
  · exact (worksOn_perform (c := .status p) (by simp) And.left).bind fun _ => worksOn_pure _

end Filing

end ShaderRecords

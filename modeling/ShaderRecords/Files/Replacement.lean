/-
ShaderRecords.Files.Replacement — a file replaced as a whole or not at all.

The new text goes to a draft beside the file, which then takes the file's place. When a step fails, the
draft is removed and the file is as it was.
-/
import ShaderRecords.Files.Program
import ShaderRecords.Report

namespace ShaderRecords

/-- Why a target was left out. -/
inductive WriteError where
  | readOnly (target : Path)
  | failed (target : Path) (e : FileError)
deriving Repr, DecidableEq

namespace WriteError

/-- The target that was left out. -/
def target : WriteError → Path
  | readOnly p | failed p _ => p

/-- The message of the problem. -/
def message : WriteError → String
  | readOnly p => p.display ++ " is ReadOnly. Skipping it."
  | failed p e => "failed to write " ++ p.display ++ ": " ++ e.message

/-- The problem as it is told. -/
def report (e : WriteError) : Report where
  category := .writing
  code := "E_WRITE_ACCESS"
  message := e.message
  context := some [("path", e.target.display)]

end WriteError

namespace Filing

/-- Whether a target may be replaced: it is not there, or its owner may write. -/
def mayReplace (p : Path) : Filing Bool := do
  if ! (← isThere p) then return true
  return (← perform (.status p)).ownerMayWrite

/-- Gives a command after a failure; if it fails too, the first failure counts. -/
def tidyUp (c : FileCommand) : Filing Unit := do
  let _ ← attempt c
  return ()

/-- Writes a text to a draft and puts the draft in the place of a file. -/
def replaceThrough (draft p : Path) (text : String) : Filing Unit :=
  tryCatch (do
    perform (.clear draft)
    perform (.append draft text.toUTF8)
    perform (.rename draft p)) fun b => do
    match b with
    | .file _ => tidyUp (.remove draft)
    | _ => pure ()
    throw b

/-- Makes a file hold a text, unless it does so already; says whether it has changed the file. -/
def replace (p : Path) (text : String) : Filing Bool := do
  ensureDirectories p.root p.parent.parts.reverse
  if ← isThere p then
    let old ← readText p
    if old = text then return false
  let draft ← lift (p.withName (p.name ++ ".tmp"))
  replaceThrough draft p text
  return true

end Filing

end ShaderRecords

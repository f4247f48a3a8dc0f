/-
ShaderRecords.Run.Environment — where a run takes place, and the steps that it is made of.
-/
import ShaderRecords.Console.Log
import ShaderRecords.Console.Task
import ShaderRecords.Files.Program

namespace ShaderRecords

/-- Where a run takes place. -/
structure Environment where
  /-- The directory that the tool is installed in. -/
  home : String
  /-- The names from the root to the working directory. -/
  here : List String
  /-- The width of the terminal that messages go to, if they go to one. -/
  terminalWidth : Option Nat := none
  /-- Whether messages may have colours. -/
  colors : Bool := false
deriving Repr, Inhabited

/-- A run: it works on files and shows what it does. -/
abbrev Running := ExceptT Breakdown (StateT Console FileProgram)

namespace Running

/-- A step on files. -/
def onFiles {α : Type} (x : Filing α) : Running α :=
  ExceptT.mk (StateT.lift x.run)

/-- A program on files that does not break down. -/
def onProgram {α : Type} (x : FileProgram α) : Running α :=
  ExceptT.lift (StateT.lift x)

/-- A step that never touches files. -/
def lift {α : Type} (x : Except Breakdown α) : Running α :=
  ExceptT.mk (pure x)

/-- A step that shows something. -/
def tell (f : Console → Console) : Running Unit :=
  modify f

/-- Shows a log record. -/
def log (level : LogLevel) (message : String) : Running Unit :=
  tell fun c => c.log level message

/-- Shows a problem. -/
def logError (message code : String) : Running Unit :=
  tell fun c => c.log .error message (.text code)

end Running

end ShaderRecords

/-
ShaderRecords.Console.Basic — what the user is shown.

A console keeps everything it has shown (`Console.transcript`), the errors among it and the tasks that
are under way. How much a task has taken is no part of the console: the transcript has a gap for it,
which is filled when the transcript is written out.
-/
import ShaderRecords.Console.Ruled
import ShaderRecords.Document.Whole
import ShaderRecords.Failure

namespace ShaderRecords

/-- The way in which a console shows messages. -/
inductive ConsoleStyle where
  /-- Lines with a label in front, which may be coloured. -/
  | plain (color : Bool)
  /-- Lines with a label in front, and headings drawn as rules of a given width. -/
  | ruled (width : Nat)
  /-- Nothing is shown. -/
  | silent
deriving Repr, DecidableEq

/-- The state in which a task ends. -/
inductive TaskStatus where
  | running
  | success
  | failed
  | skipped
deriving Repr, DecidableEq

namespace TaskStatus

/-- The mark of a state; a task that is still running has none. -/
def icon? : TaskStatus → Option String
  | running => none
  | success => some "✔"
  | failed => some "✖"
  | skipped => some "→"

end TaskStatus

/-- A task under way. -/
structure ConsoleTask where
  name : String
  /-- The number of items, `null` where it is not known. -/
  total : Value := .null
  completed : Int := 0
  /-- What is known about the task. -/
  facts : Entries := []
deriving Repr

/-- A piece of what has been shown. -/
inductive ShownPiece where
  | text (s : String)
  /-- The time that a task has taken. -/
  | duration
deriving Repr, DecidableEq

/-- An error that has been shown, with its code if it has one. -/
structure ShownError where
  code : Option String
  message : String
deriving Repr, DecidableEq

/-- What the user is shown. -/
structure Console where
  style : ConsoleStyle
  /-- Details up to this level are shown. -/
  verbosity : Nat := 0
  /-- Log records below this level are dropped. -/
  threshold : Int := 20
  tasks : List (String × ConsoleTask) := []
  errors : List ShownError := []
  transcript : List ShownPiece := []
deriving Repr

/-- Adds entries to others, in the place of those with equal keys. -/
def Entries.update (es more : Entries) : Entries :=
  more.foldl (fun es (k, v) => es.put k v) es

/-- Facts that are told beside other arguments, none of which they may name. -/
def factsBeside (taken : List String) (facts : Value) : Except Breakdown Entries :=
  match facts.orElse (.map []) with
  | .map es => if es.any fun e => taken.contains e.1 then .error .wrongKind else .ok es
  | _ => .error .wrongKind

namespace ConsoleTask

/-- The facts that are shown when a task ends, in this order. -/
def shownFacts : List String :=
  ["types", "targets", "written", "unchanged", "skipped", "errors"]

/-- The facts about a task in brackets. -/
def factsText (t : ConsoleTask) : String :=
  let parts := shownFacts.filterMap fun k => (t.facts.lookup k).map fun v => k ++ "=" ++ v.display
  if parts.isEmpty then "" else " [" ++ " ".intercalate parts ++ "]"

/-- How many items are done, for a task that counts them. -/
def countText (t : ConsoleTask) : String :=
  match t.total with
  | .null => ""
  | n => " " ++ toString t.completed ++ "/" ++ n.display

end ConsoleTask

namespace Console

variable (c : Console)

/-- The number of errors that have been told. -/
def errorCount : Nat := c.errors.length

/-- Whether nothing is shown. -/
def isSilent : Bool := c.style == .silent

/-- Shows pieces, unless the console is silent. -/
def showPieces (pieces : List ShownPiece) : Console :=
  if c.isSilent then c else { c with transcript := c.transcript ++ pieces }

/-- Shows a text. -/
def showText (s : String) : Console :=
  c.showPieces [.text s]

/-- A label, in its colour where the console has colours. -/
def label (colorCode text : String) : String :=
  match c.style with
  | .plain true => "\x1b[" ++ colorCode ++ "m" ++ text ++ "\x1b[0m"
  | _ => text

/-- A text as the console shows it, `before` being what stands in front of it. -/
def lineText (before message : String) : String :=
  match c.style with
  | .ruled _ => Ruled.line before message
  | _ => before ++ message

/-- Shows a line with a label. -/
def showLine (colorCode label message : String) : Console :=
  c.showText (c.lineText (c.label colorCode label ++ ": ") message ++ "\n")

/-- Tells what is going on. -/
def status (message : String) : Console :=
  c.showLine "32" "INFO" message

/-- Tells a detail, if the verbosity reaches its level. -/
def verbose (message : String) (level : Whole) : Console :=
  if (c.verbosity : Int) < level.toInt then c else c.showLine "36" ("VERB" ++ level.display) message

/-- Warns. -/
def warning (message : String) : Console :=
  c.showLine "33" "WARN" message

/-- Tells an error, with its code in front if it has one. -/
def error (message : String) (code : Value := .null) : Console :=
  let code? := if code.isPresent then some code.display else none
  let text := match code? with
    | some code => code ++ ": " ++ message
    | none => message
  { c.showLine "31" "ERROR" text with errors := c.errors ++ [⟨code?, message⟩] }

/-- Shows a heading. -/
def heading (title : String) : Console :=
  match c.style with
  | .ruled width => c.showText (Ruled.rule width title ++ "\n")
  | _ => c.showText ("\n[" ++ title ++ "]\n")

/-- Details are shown up to a level; levels below zero count as zero. -/
def setVerbosity (level : Int) : Console :=
  { c with verbosity := level.toNat }

end Console

end ShaderRecords

/-
ShaderRecords.Report — the form in which every problem is told to the user.

A report has a category, a code, a message and, for most problems, a context of named values. Each
part of the program has its own type of causes; each cause has one report.
-/
import ShaderRecords.Document.Text

namespace ShaderRecords

/-- The stage of the work a problem belongs to. -/
inductive Category where
  | extraction
  | packing
  | directive
  | specification
  | writing
deriving Repr, DecidableEq, Inhabited

/-- A problem as it is told. -/
structure Report where
  category : Category
  code : String
  message : String
  context : Option Entries := none
deriving Repr, Inhabited

namespace Report

/-- Code and message, followed by the context when there is something in it. -/
def lineOf (code message context : Value) : String :=
  code.display ++ ": " ++ message.display
    ++ (if context.isPresent then " | ctx=" ++ context.display else "")

/-- Code, message and context as a map; a context with nothing in it is empty there. -/
def mapOf (code message context : Value) : Value :=
  .map [("code", code), ("message", message), ("context", context.orElse (.map []))]

/-- The context as a value. -/
def contextValue (r : Report) : Value :=
  match r.context with
  | some es => .map es
  | none => .null

/-- The report in one line. -/
def text (r : Report) : String :=
  lineOf r.code r.message r.contextValue

/-- The report as a map. -/
def toValue (r : Report) : Value :=
  mapOf r.code r.message r.contextValue

end Report

end ShaderRecords

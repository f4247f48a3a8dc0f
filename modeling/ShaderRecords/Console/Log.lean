/-
ShaderRecords.Console.Log — log records and how they reach the console.
-/
import ShaderRecords.Console.Basic

namespace ShaderRecords

/-- The levels of log records that have a name. -/
inductive LogLevel where
  | debug
  | info
  | warning
  | error
deriving Repr, DecidableEq

/-- The number of a level. -/
def LogLevel.number : LogLevel → Int
  | debug => 10
  | info => 20
  | warning => 30
  | error => 40

namespace Console

variable (c : Console)

/-- Records below the level of information are dropped unless details are wanted. -/
def configureLog (verbosity : Int) : Console :=
  { c with threshold := if verbosity ≥ 1 then LogLevel.debug.number else LogLevel.info.number }

/-- Shows a log record, unless its level is below the threshold. -/
def logAt (level : Int) (message : String) (code : Value := .null) : Console :=
  if level < c.threshold then c
  else if level ≥ LogLevel.error.number then c.error message code
  else if level ≥ LogLevel.warning.number then c.warning message
  else if level ≥ LogLevel.info.number then c.status message
  else c.verbose message (if level ≥ LogLevel.debug.number then 1 else 2)

/-- Shows a log record with facts beside its message, unless its level is below the threshold. Facts that
take the place of the message, or of the level of a detail, break down. -/
def logRecord (level : Int) (message facts : Value) : Except Breakdown Console :=
  if level < c.threshold then .ok c
  else do
    let taken := ["self", "message"] ++ (if level < LogLevel.info.number then ["level"] else [])
    let facts ← factsBeside taken facts
    return c.logAt level message.display ((facts.lookup "code").getD .null)

/-- Shows a log record. -/
def log (level : LogLevel) (message : String) (code : Value := .null) : Console :=
  c.logAt level.number message code

/-- Tells a step of the work. -/
def tellStep (message : String) : Console :=
  c.status ("  -> " ++ message)

/-- Notes the end of a section, where many details are wanted. -/
def endSection (title : String) : Console :=
  if c.verbosity ≥ 2 then c.log .debug ("end section: " ++ title) else c

/-- A console at the start of a run. -/
def start (style : ConsoleStyle) (verbosity : Int) : Console :=
  (({ style := style } : Console).configureLog verbosity).setVerbosity verbosity

end Console

end ShaderRecords

/-
ShaderRecords.CommandLine.Execution — a command line carried out.
-/
import ShaderRecords.CommandLine.Command

namespace ShaderRecords

/-- How a command line ends. -/
structure Exit where
  code : Nat
  /-- What goes to the standard output. -/
  output : String := ""
  /-- What goes to the error output. -/
  messages : List ShownPiece := []
deriving Repr

namespace Exit

/-- What goes to the error output, with a text for the time that tasks have taken. -/
def messageText (e : Exit) (duration : String) : String :=
  String.join (e.messages.map fun
    | .text s => s
    | .duration => duration)

end Exit

/-- The text that tells how the program is called. -/
def helpText : String :=
  "usage: " ++ programName ++ " [-h] [-v] [-r " ++ "|".intercalate reporterChoices ++ "] [--version] "
    ++ "|".intercalate commandNames ++ " input ...\n"

namespace Refusal

/-- How a command line ends that is not run. -/
def exit : Refusal → Exit
  | version => { code := 0, output := toolName ++ " " ++ toolVersion ++ "\n" }
  | help => { code := 0, output := helpText }
  | usage e => { code := 2, messages := [.text e.line] }

end Refusal

/-- The console that is asked for. Rules need a terminal, so without one there are plain lines. -/
def GlobalSettings.console (s : GlobalSettings) (env : Environment) : Console :=
  let style : ConsoleStyle :=
    match s.reporter, env.terminalWidth with
    | "silent", _ => .silent
    | "rich", some width => .ruled width
    | _, _ => .plain env.colors
  Console.start style s.verbosity

/-- Carries out a command. -/
def Command.run (env : Environment) : Command → Running RunResult
  | generate q => Running.generate env q
  | validate input schema => Running.validate env input schema

/-- Carries out a command line. -/
def execute (env : Environment) (args : List String) : FileProgram (Except Breakdown Exit) :=
  match Invocation.read args with
  | .error refusal => pure (.ok refusal.exit)
  | .ok call => do
    let (result, console) ← (call.command.run env).run.run (call.settings.console env)
    return result.map fun r => { code := if r.isFine then 0 else 1, messages := console.transcript }

end ShaderRecords

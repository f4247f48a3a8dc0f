/-
ShaderRecords.CommandLine.Command — the commands of the program and their arguments.
-/
import ShaderRecords.CommandLine.Option
import ShaderRecords.Number.Literal
import ShaderRecords.Run.Generation
import ShaderRecords.Run.Validation

namespace ShaderRecords

/-- The options in front of a command. -/
inductive GlobalOption where
  | help
  | verbose
  | reporter
  | version
deriving Repr, DecidableEq

/-- The settings made in front of a command. -/
structure GlobalSettings where
  verbosity : Nat := 0
  reporter : String := "plain"
deriving Repr

/-- The consoles that can be asked for. -/
def reporterChoices : List String := ["plain", "rich", "silent"]

/-- The options in front of a command and their effects. -/
def globalTable : OptionTable GlobalOption GlobalSettings where
  options := [⟨.help, ["-h", "--help"], false⟩, ⟨.verbose, ["-v", "--verbose"], false⟩,
    ⟨.reporter, ["-r", "--reporter"], true⟩, ⟨.version, ["--version"], false⟩]
  take s o value :=
    match o.key with
    | .help => .error .help
    | .version => .error .version
    | .verbose => .ok { s with verbosity := s.verbosity + 1 }
    | .reporter =>
      let name := value.getD ""
      if reporterChoices.contains name then .ok { s with reporter := name }
      else .error (.usage (.invalidChoice o.label name reporterChoices))

/-- The options of the command that generates. -/
inductive GenerateOption where
  | help
  | outDir
  | dryRun
  | schema
  | jobs
  | emitManifest
  | packingInclude
deriving Repr, DecidableEq

/-- A positive count. -/
def readCount (label text : String) : Except Halt Int :=
  match readInt? text with
  | none => .error (.usage (.notCount label text))
  | some n => if n < 1 then .error (.usage (.tooSmall label)) else .ok n

/-- The options of the command that generates, and their effects. -/
def generateTable : OptionTable GenerateOption GenerationRequest where
  options := [⟨.help, ["-h", "--help"], false⟩, ⟨.outDir, ["--out-dir"], true⟩,
    ⟨.dryRun, ["--dry-run"], false⟩, ⟨.schema, ["--schema"], true⟩, ⟨.jobs, ["--jobs", "-j"], true⟩,
    ⟨.emitManifest, ["--emit-json"], false⟩, ⟨.packingInclude, ["--packing-include"], true⟩]
  take q o value :=
    match o.key with
    | .help => .error .help
    | .outDir => .ok { q with outDir := value.map fun dir => (Path.ofText dir).display }
    | .dryRun => .ok { q with dryRun := true }
    | .schema => .ok { q with schema := value }
    | .jobs => do return { q with jobs := some (← readCount o.label (value.getD "")) }
    | .emitManifest => .ok { q with emitManifest := true }
    | .packingInclude => .ok { q with packingInclude := value }

/-- The options of the command that validates. -/
inductive ValidateOption where
  | help
  | schema
deriving Repr, DecidableEq

/-- The options of the command that validates, and their effects. -/
def validateTable : OptionTable ValidateOption (Option String) where
  options := [⟨.help, ["-h", "--help"], false⟩, ⟨.schema, ["--schema"], true⟩]
  take _ o value :=
    match o.key with
    | .help => .error .help
    | .schema => .ok value

/-- What the program is asked to do. -/
inductive Command where
  | generate (q : GenerationRequest)
  | validate (input : String) (schema : Option String)
deriving Repr

/-- The names of the commands. -/
def commandNames : List String := ["generate", "validate"]

/-- Why a command line is not run: it asks for a text only, or it makes no sense. -/
inductive Refusal where
  | version
  | help
  | usage (e : UsageError)
deriving Repr, DecidableEq

/-- A reading that has stopped, as one of the arguments of a command. -/
def Halt.refusal (command : Option String) : Halt → Refusal
  | .usage cause => .usage ⟨command, cause⟩
  | .version => .version
  | .help => .help

/-- The settings, the input and the arguments left over, of the arguments of a command. -/
def OptionTable.readCommand {κ σ : Type} (table : OptionTable κ σ) (command : String) (start : σ)
    (args : List String) : Except Refusal (σ × String × List String) :=
  let result : Except Halt (σ × String × List String) := do
    let words ← OptionSpec.roles table.options args
    let st ← table.read { settings := start } words
    match st.operand with
    | none => throw (.usage (.required "input"))
    | some input => return (st.settings, (Path.ofText input).display, st.extras)
  result.mapError (Halt.refusal (some command))

/-- A command with its arguments, and the arguments left over. -/
def Command.read (name : String) (args : List String) : Except Refusal (Command × List String) :=
  match name with
  | "generate" => do
    let (q, input, extras) ← generateTable.readCommand name { input := "" } args
    return (.generate { q with input := input }, extras)
  | "validate" => do
    let (schema, input, extras) ← validateTable.readCommand name none args
    return (.validate input schema, extras)
  | _ => .error (.usage ⟨none, .invalidChoice "cmd" name commandNames⟩)

/-- What a command line asks for. -/
structure Invocation where
  settings : GlobalSettings
  command : Command
deriving Repr

/-- Reads a command line. -/
def Invocation.read (args : List String) : Except Refusal Invocation := do
  let front : Except Halt (ReadState GlobalSettings × List String) := do
    let words ← OptionSpec.roles globalTable.options args
    globalTable.readUpToValue { settings := {} } words
  let (st, rest) ← front.mapError (Halt.refusal none)
  match rest with
  | [] => throw (.usage ⟨none, .required "cmd"⟩)
  | name :: args =>
    let (command, extras) ← Command.read name args
    let extras := st.extras ++ extras
    if extras.isEmpty then return ⟨st.settings, command⟩
    else throw (.usage ⟨none, .unrecognized extras⟩)

end ShaderRecords

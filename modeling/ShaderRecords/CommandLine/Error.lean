/-
ShaderRecords.CommandLine.Error — what is wrong with the arguments of a command line.
-/
import ShaderRecords.Text.Quoted

namespace ShaderRecords

/-- What is wrong with arguments. -/
inductive UsageCause where
  /-- An abbreviation stands for several options. -/
  | ambiguous (given : String) (options : List String)
  | required (name : String)
  | unrecognized (arguments : List String)
  | invalidChoice (argument given : String) (choices : List String)
  /-- An option lacks its value. -/
  | missingValue (argument : String)
  /-- An option without a value was given one. -/
  | unwantedValue (argument given : String)
  | notCount (argument given : String)
  | tooSmall (argument : String)
deriving Repr, DecidableEq

/-- What is wrong with arguments, with the command that they were given to. -/
structure UsageError where
  command : Option String := none
  cause : UsageCause
deriving Repr, DecidableEq

/-- The name of the program on the command line. -/
def programName : String := "shadertype-codegen"

namespace UsageCause

/-- What is wrong, as it is told. -/
def message : UsageCause → String
  | ambiguous given options =>
    "ambiguous option: " ++ given ++ " could match " ++ ", ".intercalate options
  | required name => "the following arguments are required: " ++ name
  | unrecognized arguments => "unrecognized arguments: " ++ " ".intercalate arguments
  | invalidChoice argument given choices =>
    "argument " ++ argument ++ ": invalid choice: " ++ Text.quoted given ++ " (choose from "
      ++ ", ".intercalate (choices.map Text.quoted) ++ ")"
  | missingValue argument => "argument " ++ argument ++ ": expected one argument"
  | unwantedValue argument given =>
    "argument " ++ argument ++ ": ignored explicit argument " ++ Text.quoted given
  | notCount argument given =>
    "argument " ++ argument ++ ": invalid _positive_int value: " ++ Text.quoted given
  | tooSmall argument => "argument " ++ argument ++ ": must be >= 1"

end UsageCause

/-- The line that tells the problem. -/
def UsageError.line (e : UsageError) : String :=
  let program := match e.command with
    | some command => programName ++ " " ++ command
    | none => programName
  program ++ ": error: " ++ e.cause.message ++ "\n"

end ShaderRecords

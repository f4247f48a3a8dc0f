/-
ShaderRecords.Main — the program on the machine.

The commands of a run are answered from the file system of the machine, and what the run has shown is
written to the error output when it is over.
-/
import ShaderRecords.CommandLine.Execution
import ShaderRecords.Number.Power

namespace ShaderRecords.Machine

open scoped Power

/-- The number of a failure, which some steps tell with a minus sign. -/
def numberOf (code : UInt32) : Nat :=
  if code.toNat < 2 ^ (31 : Nat) then code.toNat else 2 ^ (32 : Nat) - code.toNat

/-- The cause of a failure that the system has told. -/
def causeOf : IO.Error → FileCause
  | .alreadyExists _ n w | .permissionDenied _ n w | .resourceExhausted _ n w | .inappropriateType _ n w
  | .noSuchThing _ n w | .invalidArgument _ n w | .noFileOrDirectory _ n w | .interrupted _ n w
  | .otherError n w | .resourceBusy n w | .resourceVanished n w | .unsupportedOperation n w
  | .hardwareFault n w | .unsatisfiedConstraints n w | .illegalOperation n w | .protocolError n w
  | .timeExpired n w => .ofNumber (numberOf n) w
  | .unexpectedEof => .other 0 "unexpected end of file"
  | .userError w => .other 0 w

/-- A step with its failure as an answer. -/
def answer {α : Type} (x : IO α) : IO (Except FileCause α) := do
  match ← x.toBaseIO with
  | .ok y => return .ok y
  | .error e => return .error (causeOf e)

/-- What is at a path. A file that cannot be opened for writing counts as one that may not be
written. -/
def status (p : String) : IO FileStatus := do
  let facts ← (System.mkFilePath [p]).metadata
  if facts.type matches .dir then return ⟨true, true⟩
  match ← answer (IO.FS.Handle.mk p .append) with
  | .ok _ => return ⟨false, true⟩
  | .error _ => return ⟨false, false⟩

/-- Carries out a command. -/
def carryOut : (c : FileCommand) → IO c.Result
  | .status p => status p.display
  | .read p => IO.FS.readBinFile p.display
  | .makeDirectory p => IO.FS.createDir p.display
  | .clear p => IO.FS.writeBinFile p.display .empty
  | .append p bytes => do (← IO.FS.Handle.mk p.display .append).write bytes
  | .rename source target => IO.FS.rename source.display target.display
  | .remove p => IO.FS.removeFile p.display

/-- Where the program runs. -/
def environment : IO Environment := do
  let isTerminal ← (← IO.getStderr).isTty
  let plainWanted := ((← IO.getEnv "NO_COLOR").getD "") ≠ ""
  return {
    home := (← IO.appDir).toString
    here := (Path.ofText (← IO.currentDir).toString).parts
    terminalWidth := if isTerminal then some 80 else none
    colors := isTerminal && !plainWanted }

/-- Milliseconds as seconds with two digits behind the point. -/
def secondsText (ms : Nat) : String :=
  let hundredths := (ms + 5) / 10
  let rest := toString (hundredths % 100)
  toString (hundredths / 100) ++ "." ++ (if rest.length < 2 then "0" ++ rest else rest) ++ "s"

/-- What is told when a run breaks down. -/
def breakdownText : Breakdown → String
  | .wrongKind => "a value of the document has a kind that does not fit its place"
  | .missingPart => "a value of the document lacks a part that is asked for"
  | .wrongContent => "a value of the document makes no sense in its place"
  | .missingKey => "a map of the document lacks a key"
  | .divisionByZero => "a division by zero"
  | .tooLarge => "a number is too large"
  | .outOfMemory => "a number does not fit into memory"
  | .endless => "a type name leads back to itself"
  | .unreadableSchema => "the schema cannot be read"
  | .undecodableText => "a file does not hold UTF-8 text"
  | .file e => e.message

end ShaderRecords.Machine

open ShaderRecords ShaderRecords.Machine in
/-- Carries out the command line of the program. -/
def main (args : List String) : IO UInt32 := do
  let env ← environment
  let begun ← IO.monoMsNow
  match ← (execute env args).runWith fun c => answer (carryOut c) with
  | .error b =>
    IO.eprintln (programName ++ ": " ++ breakdownText b)
    return 1
  | .ok exit =>
    IO.print exit.output
    IO.eprint (exit.messageText (secondsText ((← IO.monoMsNow) - begun)))
    return UInt32.ofNat exit.code

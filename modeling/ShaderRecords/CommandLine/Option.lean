/-
ShaderRecords.CommandLine.Option — how arguments are read as options and values.

* A long option may be abbreviated as long as no other option begins in the same way, and may have its
  value behind an equality sign.
* Short options without values may share one dash, and the last one may have its value right behind it.
* Negative numbers, arguments with blanks and everything behind `--` are values.
-/
import ShaderRecords.CommandLine.Error
import ShaderRecords.Text.CharClass

namespace ShaderRecords

/-- An option, known to the program as a `κ`. -/
structure OptionSpec (κ : Type) where
  key : κ
  names : List String
  takesValue : Bool

/-- The name of an option in messages. -/
def OptionSpec.label {κ : Type} (o : OptionSpec κ) : String :=
  "/".intercalate o.names

/-- What an argument is. -/
inductive ArgumentRole (κ : Type) where
  | value
  /-- The argument `--`. -/
  | separator
  | option (o : OptionSpec κ) (name : String) (attached : Option (List Char))
  /-- It looks like an option, and there is none of this name. -/
  | unknown

/-- An argument that has been looked at. -/
abbrev ReadArgument (κ : Type) := String × ArgumentRole κ

/-- Why the reading of arguments stops before their end. -/
inductive Halt where
  | usage (cause : UsageCause)
  | version
  | help
deriving Repr, DecidableEq

namespace OptionSpec

variable {κ : Type} (options : List (OptionSpec κ))

/-- The option of a name. -/
def find? (name : String) : Option (OptionSpec κ) :=
  options.find? fun o => o.names.contains name

/-- All options by name. -/
def byName : List (String × OptionSpec κ) :=
  options.flatMap fun o => o.names.map fun name => (name, o)

/-- A text cut at its first equality sign. -/
def cutAtSign (s : List Char) : List Char × Option (List Char) :=
  match s.dropWhile (· ≠ '=') with
  | _ :: rest => (s.takeWhile (· ≠ '='), some rest)
  | [] => (s, none)

/-- The options that a long argument may abbreviate. -/
def abbreviated (arg : List Char) : List (String × ArgumentRole κ) :=
  let (front, attached) := cutAtSign arg
  (byName options).filterMap fun (name, o) =>
    if front.isPrefixOf name.toList then some (name, .option o name attached) else none

/-- The options that an argument with a single dash may mean: a short one with its value right behind
it, or one that begins in the same way. -/
def clustered (arg : List Char) : List (String × ArgumentRole κ) :=
  (byName options).filterMap fun (name, o) =>
    if name.toList = arg.take 2 then some (name, .option o name (some (arg.drop 2)))
    else if arg.isPrefixOf name.toList then some (name, .option o name none)
    else none

/-- Whether an argument is a negative number, behind which one line break may stand. -/
def isNegativeNumber : List Char → Bool
  | '-' :: s =>
    let s := if s.getLast? = some '\n' then s.dropLast else s
    let rest := s.dropWhile Text.isDigit
    match rest with
    | [] => !s.isEmpty
    | '.' :: digits => !digits.isEmpty && digits.all Text.isDigit
    | _ => false
  | _ => false

/-- What an argument is that is neither the name of an option nor one with a value behind a sign. -/
def roleOfOther (arg : List Char) : Except Halt (ArgumentRole κ) :=
  let candidates := match arg with
    | '-' :: '-' :: _ => abbreviated options arg
    | _ => clustered options arg
  match candidates with
  | [(_, role)] => .ok role
  | [] => .ok (if isNegativeNumber arg || arg.contains ' ' then .value else .unknown)
  | _ => .error (.usage (.ambiguous (String.ofList arg) (candidates.map (·.1))))

/-- What an argument is. -/
def role (arg : String) : Except Halt (ArgumentRole κ) :=
  match arg.toList with
  | [] | ['-'] => .ok .value
  | '-' :: _ =>
    match find? options arg with
    | some o => .ok (.option o arg none)
    | none =>
      let (front, attached) := cutAtSign arg.toList
      let name := String.ofList front
      match attached, find? options name with
      | some value, some o => .ok (.option o name (some value))
      | _, _ => roleOfOther options arg.toList
  | _ => .ok .value

/-- What the arguments are; behind the first `--` all are values. -/
def roles : List String → Except Halt (List (ReadArgument κ))
  | [] => .ok []
  | "--" :: rest => .ok (("--", .separator) :: rest.map fun arg => (arg, .value))
  | arg :: rest => do return (arg, ← role options arg) :: (← roles rest)

end OptionSpec

/-- The options that one argument names. -/
structure OptionCluster (κ : Type) where
  /-- Those in front of the last one, which are without values. -/
  flags : List (OptionSpec κ) := []
  last : OptionSpec κ
  /-- The value of the last one, if it stands in the same argument. -/
  value : Option String := none

namespace OptionCluster

variable {κ : Type} (options : List (OptionSpec κ))

/-- The options that share the dash of a short one, of what stands right behind it. It is the value of
the first of them that takes one. -/
def ofShort (o : OptionSpec κ) : List Char → Except Halt (OptionCluster κ)
  | [] => if o.takesValue then .ok { last := o, value := some "" }
    else .error (.usage (.unwantedValue o.label ""))
  | c :: rest =>
    if o.takesValue then .ok { last := o, value := some (String.ofList (c :: rest)) }
    else
      match OptionSpec.find? options (String.ofList ['-', c]) with
      | none => .error (.usage (.unwantedValue o.label (String.ofList (c :: rest))))
      | some next =>
        match rest with
        | [] => .ok { flags := [o], last := next }
        | d :: more => do
          let cluster ← ofShort next (d :: more)
          return { cluster with flags := o :: cluster.flags }

/-- The options that an argument names by the first of them and what is attached to it. -/
def ofAttached (o : OptionSpec κ) (name : String) : Option (List Char) → Except Halt (OptionCluster κ)
  | none => .ok { last := o }
  | some text =>
    if "--".toList.isPrefixOf name.toList then
      if o.takesValue then .ok { last := o, value := some (String.ofList text) }
      else .error (.usage (.unwantedValue o.label (String.ofList text)))
    else ofShort options o text

end OptionCluster

/-- What a program does with its options. -/
structure OptionTable (κ σ : Type) where
  options : List (OptionSpec κ)
  /-- Takes in an option with its value. -/
  take : σ → OptionSpec κ → Option String → Except Halt σ

/-- What has been read of the arguments. -/
structure ReadState (σ : Type) where
  settings : σ
  operand : Option String := none
  extras : List String := []

namespace OptionTable

variable {κ σ : Type} (table : OptionTable κ σ)

/-- Takes in the options of a cluster, the last one with a value. -/
def takeAll (st : ReadState σ) (c : OptionCluster κ) (value : Option String) :
    Except Halt (ReadState σ) := do
  let settings ← c.flags.foldlM (fun settings o => table.take settings o none) st.settings
  return { st with settings := ← table.take settings c.last value }

/-- Reads the arguments of a command with one operand. -/
def read (st : ReadState σ) : List (ReadArgument κ) → Except Halt (ReadState σ)
  | [] => .ok st
  | (arg, .unknown) :: rest => read { st with extras := st.extras ++ [arg] } rest
  | (arg, .value) :: rest =>
    if st.operand.isSome then read { st with extras := st.extras ++ [arg] } rest
    else
      let st := { st with operand := some arg }
      match rest with
      | (_, .separator) :: rest => read st rest
      | rest => read st rest
  | (arg, .separator) :: rest =>
    match st.operand, rest with
    | none, (value, .value) :: rest => read { st with operand := some value } rest
    | _, rest => read { st with extras := st.extras ++ [arg] } rest
  | (_, .option o name attached) :: rest => do
    let c ← OptionCluster.ofAttached table.options o name attached
    if c.last.takesValue && c.value.isNone then
      match rest with
      | (value, .value) :: rest => read (← table.takeAll st c (some value)) rest
      | _ => throw (.usage (.missingValue c.last.label))
    else read (← table.takeAll st c c.value) rest

/-- Reads arguments up to the first value; it and all behind it are given back. -/
def readUpToValue (st : ReadState σ) :
    List (ReadArgument κ) → Except Halt (ReadState σ × List String)
  | [] => .ok (st, [])
  | (arg, .unknown) :: rest => readUpToValue { st with extras := st.extras ++ [arg] } rest
  | (arg, .value) :: rest => .ok (st, arg :: rest.map (·.1))
  | (arg, .separator) :: rest =>
    match rest with
    | [] => .ok ({ st with extras := st.extras ++ [arg] }, [])
    | rest => .ok (st, arg :: rest.map (·.1))
  | (_, .option o name attached) :: rest => do
    let c ← OptionCluster.ofAttached table.options o name attached
    if c.last.takesValue && c.value.isNone then
      match rest with
      | (value, .value) :: rest => readUpToValue (← table.takeAll st c (some value)) rest
      | _ => throw (.usage (.missingValue c.last.label))
    else readUpToValue (← table.takeAll st c c.value) rest

end OptionTable

end ShaderRecords

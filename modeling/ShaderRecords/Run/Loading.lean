/-
ShaderRecords.Run.Loading — a description loaded from its file.

The document is read, put in its normal form, held against a schema and asked for a version before the
description is read from it. The schema is the one that is asked for, if it is there, or the one next to
the document, or else the one that the tool comes with.
-/
import ShaderRecords.Description.Normalization
import ShaderRecords.Description.Reader
import ShaderRecords.Document.Yaml
import ShaderRecords.Run.Environment
import ShaderRecords.Schema.Choice
import ShaderRecords.Schema.Document
import ShaderRecords.Schema.Reader

namespace ShaderRecords

/-- Where a schema comes from. -/
inductive SchemaOrigin where
  | file (p : Path)
  /-- The tool comes with it. -/
  | standard
deriving Repr, DecidableEq

namespace SchemaOrigin

/-- The name of schema files. -/
def fileName : String := "ShaderTypes.schema.json"

/-- The path of a schema as it is told. -/
def display (home : String) : SchemaOrigin → String
  | file p => p.display
  | standard => home ++ "/" ++ fileName

/-- The path, if there is something at it. -/
def ifThere (p : Path) : Filing (Option SchemaOrigin) := do
  return if ← Filing.isThere p then some (.file p) else none

/-- The schema that is asked for, if it is there. -/
def asked (schema : Option String) : Filing (Option SchemaOrigin) :=
  match schema with
  | none | some "" => return none
  | some s => ifThere (.ofText s)

/-- The schema next to a document. -/
def nextTo (input : Option String) : Filing (Option SchemaOrigin) :=
  match input with
  | none | some "" => return none
  | some s => do ifThere (← Filing.lift ((Path.ofText s).withName fileName))

/-- The schema for a document. -/
def find (schema input : Option String) : Filing SchemaOrigin := do
  if let some origin ← asked schema then return origin
  if let some origin ← nextTo input then return origin
  return .standard

/-- The schema itself. -/
def load : SchemaOrigin → Filing Schema
  | standard => return Schema.document
  | file p => do
    match ← Filing.attempt (.read p) with
    | .error _ => throw .unreadableSchema
    | .ok bytes =>
      let text := (Filing.textOf bytes).toOption
      if text.any fun s => Json.isTooDeep s.toList then throw .endless
      match ((text.bind Json.read?).filter Value.isWritable).bind Schema.ofValue? with
      | some s => return s
      | none => throw .unreadableSchema

end SchemaOrigin

namespace Version

/-- The rest of a text that starts with a run of digits. -/
def afterDigits? (s : List Char) : Option (List Char) :=
  if (s.takeWhile Text.isDigit).isEmpty then none else some (s.dropWhile Text.isDigit)

/-- The rest of a text that starts with a point. -/
def afterPoint? : List Char → Option (List Char)
  | '.' :: rest => some rest
  | _ => none

/-- Whether a text is a version: three numbers with points between them, which one line break may
follow. -/
def isVersion (s : String) : Bool :=
  let rest := do
    let s ← afterDigits? s.toList
    let s ← afterDigits? (← afterPoint? s)
    afterDigits? (← afterPoint? s)
  rest = some [] || rest = some ['\n']

end Version

/-- The version of a document. -/
def documentVersion (doc : Value) : Except Breakdown Value := do
  let info ← ((Entries.get (← doc.entries) "meta").orElse (.map [])).entries
  return Entries.get info "version"

/-- Fails unless a document has a version. -/
def checkVersion (doc : Value) : Except (Failure DocumentError) Unit := do
  match ← orBreak (documentVersion doc) with
  | .text s => if Version.isVersion s then return () else refuse .badVersion
  | _ => refuse .badVersion

/-- The description that a document stands for, if the document follows a schema. -/
def describe (schema : Schema) (doc : Value) : Except (Failure DocumentError) Description := do
  schema.check doc
  checkVersion doc
  Description.ofValue doc

namespace Running

/-- The document in a file. -/
def readDocument (input : Path) : Running (Except DocumentError Value) := do
  match ← onFiles (Filing.attempt (.read input)) with
  | .error cause => return .error (.unreadable input.display ⟨cause, input.display⟩)
  | .ok bytes =>
    match ← lift (Yaml.read (← lift (Filing.textOf bytes))) with
    | none => return .error (.notYaml input.display)
    | some doc => return if doc.isMap then .ok doc else .error (.notMapping input.display)

/-- The description in a file. -/
def load (env : Environment) (input : Path) (schema : Option String) :
    Running (Except DocumentError Description) := do
  log .debug ("Loading input YAML: " ++ input.display)
  match ← readDocument input with
  | .error e => return .error e
  | .ok doc =>
    let origin ← onFiles (SchemaOrigin.find schema (some input.display))
    log .debug ("Schema: " ++ origin.display env.home)
    let doc ← lift (normalize doc)
    let schema ← onFiles origin.load
    match describe schema doc with
    | .ok d => return .ok d
    | .error (.issue e) => return .error e
    | .error (.breakdown b) => throw b

end Running

end ShaderRecords

/-
ShaderRecords.Schema.Basic — schemas: rules that a document has to follow.

A schema is a list of rules. Each rule is about values of certain kinds and lets all others pass, so a
schema says with `Rule.kinds` which kinds it allows. The order of the rules decides which of several
problems is told (`ShaderRecords.Schema.Choice`).
-/
import ShaderRecords.Document.Same
import ShaderRecords.Document.Text

namespace ShaderRecords

/-- The kinds of values that schemas tell apart. -/
inductive ValueKind where
  | null
  | boolean
  | integer
  | number
  | string
  | array
  | object
deriving Repr, DecidableEq

namespace ValueKind

/-- All kinds. -/
def all : List ValueKind :=
  [null, boolean, integer, number, string, array, object]

/-- The name of a kind. -/
def label : ValueKind → String
  | null => "null"
  | boolean => "boolean"
  | integer => "integer"
  | number => "number"
  | string => "string"
  | array => "array"
  | object => "object"

/-- The kind with a name. -/
def ofLabel? (s : String) : Option ValueKind :=
  all.find? (·.label == s)

/-- Whether a floating-point number is whole. -/
def isWhole (x : Float) : Bool :=
  match (Binary64.ofFloat x).rat? with
  | some q => q.den == 1
  | none => false

/-- Whether a value is of a kind. Flags are no numbers, and fractional numbers without a fraction are
integers. -/
def holds : ValueKind → Value → Bool
  | null, .null => true
  | boolean, .bool _ => true
  | integer, .int _ => true
  | integer, .float x => isWhole x
  | number, .int _ => true
  | number, .float _ => true
  | string, .text _ => true
  | array, .list _ => true
  | object, .map _ => true
  | _, _ => false

end ValueKind

/-- Forms that a text can be required to have. -/
inductive Pattern where
  /-- Names: ASCII letters, digits and underscores, no digit in front. -/
  | name
deriving Repr, DecidableEq

namespace Pattern

/-- ASCII letters and the underscore. -/
def startsName (c : Char) : Bool :=
  c.isAlpha || c == '_'

/-- ASCII letters and digits and the underscore. -/
def continuesName (c : Char) : Bool :=
  c.isAlphanum || c == '_'

/-- A text without the line break at its end. -/
def withoutLineEnd (s : List Char) : List Char :=
  if s.getLast? = some '\n' then s.dropLast else s

/-- Whether a text has the form; one line break may follow it. -/
def accepts : Pattern → List Char → Bool
  | name, s =>
    match withoutLineEnd s with
    | [] => false
    | c :: cs => startsName c && cs.all continuesName

/-- The form as a regular expression. -/
def text : Pattern → String
  | name => "^[A-Za-z_][A-Za-z0-9_]*$"

end Pattern

/-- A rule of a schema. -/
inductive Rule where
  /-- The value is of one of the kinds. -/
  | kinds (ks : List ValueKind)
  /-- A map has all of the keys. -/
  | required (keys : List String)
  /-- Values under the keys follow schemas of their own. -/
  | properties (known : List (String × List Rule))
  /-- A map has none but the keys. -/
  | closed (known : List String)
  /-- Values under keys other than these follow a schema. -/
  | additional (known : List String) (rules : List Rule)
  /-- The items of a list follow a schema. -/
  | items (rules : List Rule)
  /-- The value is one of these. -/
  | among (values : List Value)
  /-- A text has a form. -/
  | pattern (p : Pattern)
  /-- A number is not less than this one. -/
  | minimum (n : Int)
  /-- A text has at least so many characters. -/
  | minLength (n : Nat)
  /-- A list has at least so many items. -/
  | minItems (n : Nat)
  /-- A list has at most so many items. -/
  | maxItems (n : Nat)
  /-- The value follows one of the schemas, which exclude each other. -/
  | oneOf (alternatives : List (List Rule))
deriving Repr

/-- The rules for a value. -/
abbrev Schema := List Rule

namespace Schema

/-- Whether the schema names the kind of a value; one that names no kinds does not. -/
def namesKind : Schema → Value → Bool
  | [], _ => false
  | .kinds ks :: _, v => ks.any (·.holds v)
  | _ :: rules, v => namesKind rules v

/-- The schema of values of one kind. -/
def ofKind (k : ValueKind) : Schema :=
  [.kinds [k]]

/-- The schema of lists whose items follow a schema. -/
def listOf (s : Schema) : Schema :=
  [.kinds [.array], .items s]

/-- The schema of maps that have all of the required keys and none but the known ones. -/
def record (required : List String) (known : List (String × Schema)) : Schema :=
  [.kinds [.object], .required required, .closed (known.map (·.1)), .properties known]

end Schema

/-- Whether two values are the same to a schema: flags are no numbers there. -/
def Value.equalTo : Value → Value → Bool
  | .bool a, .bool b => a == b
  | .bool _, _ | _, .bool _ => false
  | v, w => v.same w

end ShaderRecords

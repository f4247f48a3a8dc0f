/-
ShaderRecords.Schema.Violation — what a schema finds wrong with a value.

`Schema.violations` lists all problems, in the order of the rules and inside a value before beside it.
Where alternatives are all refused, the one problem carries those of the alternatives.
-/
import ShaderRecords.Schema.Basic

namespace ShaderRecords

/-- A step from a value to a part of it. -/
inductive PlaceStep where
  | key (name : String)
  | index (n : Nat)
deriving Repr, DecidableEq

namespace PlaceStep

/-- The step as it is told. -/
def display : PlaceStep → String
  | key name => name
  | index n => toString n

end PlaceStep

/-- A problem that a schema finds. -/
structure Violation where
  /-- The way to the value that breaks the rule. -/
  place : List PlaceStep
  message : String
  /-- Whether the rule asks for one of several schemas. -/
  isChoice : Bool
  /-- Whether the schema of the rule names the kind of the value. -/
  kindFits : Bool
  /-- The problems of the alternatives, each with the way from the value. -/
  context : List Violation
deriving Repr, Inhabited

namespace Violation

/-- The problem as one of a larger value. -/
def under (step : PlaceStep) (e : Violation) : Violation :=
  { e with place := step :: e.place }

end Violation

/-- The keys of a map that are not known. -/
def unknownKeys (known : List String) (es : Entries) : List String :=
  (es.map (·.1)).filter fun k => !known.contains k

/-- Keys in the order of their characters. -/
def sortedKeys (keys : List String) : List String :=
  keys.mergeSort fun a b => decide (a ≤ b)

/-- What is told about keys that are not known. -/
def unknownKeysMessage (keys : List String) : String :=
  "Additional properties are not allowed (" ++ ", ".intercalate ((sortedKeys keys).map Text.quoted)
    ++ (if keys.length = 1 then " was" else " were") ++ " unexpected)"

namespace Rule

/-- Whether a number is less than a bound. -/
def isBelow (n : Int) : Value → Bool
  | .int m => m < n
  | .float x => x < Float.ofInt n
  | _ => false

/-- What a rule without inner schemas tells about a value. -/
def complaints (v : Value) : Rule → List String
  | kinds ks =>
    if ks.any (·.holds v) then []
    else [v.literal ++ " is not of type " ++ ", ".intercalate (ks.map fun k => Text.quoted k.label)]
  | required keys =>
    match v with
    | .map es =>
      (keys.filter fun k => (es.lookup k).isNone).map fun k => Text.quoted k ++ " is a required property"
    | _ => []
  | closed known =>
    match v with
    | .map es =>
      let unknown := unknownKeys known es
      if unknown.isEmpty then [] else [unknownKeysMessage unknown]
    | _ => []
  | among values =>
    if values.any (·.equalTo v) then []
    else [v.literal ++ " is not one of " ++ (Value.list values).literal]
  | pattern p =>
    match v with
    | .text s =>
      if p.accepts s.toList then [] else [v.literal ++ " does not match " ++ Text.quoted p.text]
    | _ => []
  | minimum n =>
    if isBelow n v then [v.literal ++ " is less than the minimum of " ++ toString n] else []
  | minLength n =>
    match v with
    | .text s =>
      if s.length < n then [v.literal ++ (if n = 1 then " should be non-empty" else " is too short")]
      else []
    | _ => []
  | minItems n =>
    match v with
    | .list vs =>
      if vs.length < n then [v.literal ++ (if n = 1 then " should be non-empty" else " is too short")]
      else []
    | _ => []
  | maxItems n =>
    match v with
    | .list vs =>
      if n < vs.length then [v.literal ++ (if n = 0 then " is expected to be empty" else " is too long")]
      else []
    | _ => []
  | properties _ | additional _ _ | items _ | oneOf _ => []

mutual

/-- What a rule finds wrong with a value; `fits` says whether its schema names the kind of the value. -/
def violations (fits : Bool) (v : Value) : Rule → List Violation
  | properties known =>
    match v with
    | .map es => violationsUnder es known
    | _ => []
  | additional known rules =>
    match v with
    | .map es =>
      (es.filter fun e => !known.contains e.1).flatMap fun e =>
        (violationsAll (Schema.namesKind rules e.2) e.2 rules).map (·.under (.key e.1))
    | _ => []
  | items rules =>
    match v with
    | .list vs =>
      vs.zipIdx.flatMap fun (w, i) =>
        (violationsAll (Schema.namesKind rules w) w rules).map (·.under (.index i))
    | _ => []
  | oneOf alternatives =>
    match violationsOfAlternatives v alternatives with
    | some context =>
      [⟨[], v.literal ++ " is not valid under any of the given schemas", true, fits, context⟩]
    | none => []
  | rule => (complaints v rule).map fun message => ⟨[], message, false, fits, []⟩

/-- What all rules of a schema find wrong with a value. -/
def violationsAll (fits : Bool) (v : Value) : List Rule → List Violation
  | [] => []
  | r :: rs => r.violations fits v ++ violationsAll fits v rs

/-- What the schemas of keys find wrong with the entries of a map. -/
def violationsUnder (es : Entries) : List (String × List Rule) → List Violation
  | [] => []
  | (key, rules) :: known =>
    (match es.lookup key with
    | some w => (violationsAll (Schema.namesKind rules w) w rules).map (·.under (.key key))
    | none => []) ++ violationsUnder es known

/-- What all alternatives find wrong with a value, nothing if one of them accepts it. -/
def violationsOfAlternatives (v : Value) : List (List Rule) → Option (List Violation)
  | [] => some []
  | rules :: alternatives =>
    match violationsAll (Schema.namesKind rules v) v rules with
    | [] => none
    | found => (violationsOfAlternatives v alternatives).map (found ++ ·)

end

end Rule

namespace Schema

/-- All that a schema finds wrong with a value. -/
def violations (s : Schema) (v : Value) : List Violation :=
  Rule.violationsAll (s.namesKind v) v s

/-- Whether a value follows a schema. -/
def accepts (s : Schema) (v : Value) : Bool :=
  (s.violations v).isEmpty

end Schema

end ShaderRecords

/-
ShaderRecords.Document.Same — when two document values count as equal.

Numbers are equal by value, so `1`, `1.0` and `true` are, and what is not a number equals itself; maps are
equal when they have equal values under the same keys, in whatever order. Values that can stand as keys
are the scalars.
-/
import ShaderRecords.Number.Arithmetic

namespace ShaderRecords.Value

mutual

/-- Whether two values count as equal. -/
def same : Value → Value → Bool
  | null, null => true
  | text s, text t => s == t
  | float x, float y => x == y || x.isNaN && y.isNaN
  | list xs, list ys => sameItems xs ys
  | map es, map fs => es.length == fs.length && sameEntries es fs
  | v, w =>
    match v.number?, w.number? with
    | some x, some y => x.same y
    | _, _ => false

/-- Whether two lists count as equal item by item. -/
def sameItems : List Value → List Value → Bool
  | [], [] => true
  | x :: xs, y :: ys => same x y && sameItems xs ys
  | _, _ => false

/-- Whether every entry has an equal value in the other map. -/
def sameEntries : List (String × Value) → List (String × Value) → Bool
  | [], _ => true
  | (k, v) :: es, fs =>
    (match fs.lookup k with
    | some w => same v w
    | none => false) && sameEntries es fs

end

/-- Whether a value can stand as a key: lists and maps cannot. -/
def isKey : Value → Bool
  | list _ | map _ => false
  | _ => true

/-- A value that is to stand as a key. -/
def asKey (v : Value) : Except Breakdown Value :=
  if v.isKey then .ok v else .error .wrongKind

/-- The items one by one: those of a list, the keys of a map, the characters of a text. -/
def elements : Value → Except Breakdown (List Value)
  | list items => .ok items
  | map entries => .ok (entries.map fun e => text e.1)
  | text s => .ok (s.toList.map fun c => text (String.singleton c))
  | _ => .error .wrongKind

/-- The items one by one, none where the value does not count as present. -/
def elementsIfAny (v : Value) : Except Breakdown (List Value) :=
  if v.isPresent then v.elements else .ok []

/-- The items of a list; any other value but `null` is the only item. -/
def asItems : Value → List Value
  | null => []
  | list items => items
  | v => [v]

/-- The entries of a map. -/
def entries : Value → Except Breakdown Entries
  | map es => .ok es
  | _ => .error .missingPart

/-- The text that a value has to be. -/
def asText : Value → Except Breakdown String
  | text s => .ok s
  | _ => .error .wrongKind

/-- The text whose parts are asked for. -/
def textParts : Value → Except Breakdown String
  | text s => .ok s
  | _ => .error .missingPart

end ShaderRecords.Value

/-
ShaderRecords.Document.Value — the values a document is made of.

A document is a tree of scalars, lists and maps. Whole numbers and fractional numbers are told
apart, and the entries of a map keep the order in which they were written; a key that is put twice
keeps its first place and takes its last value (`Ordered.put`).
-/
import ShaderRecords.Document.Ordered

namespace ShaderRecords

/-- A value of a document. -/
inductive Value where
  | null
  | bool (b : Bool)
  | int (n : Int)
  | float (x : Float)
  | text (s : String)
  | list (items : List Value)
  | map (entries : List (String × Value))
deriving Inhabited, Repr

/-- The entries of a map. -/
abbrev Entries := Ordered Value

instance : Coe String Value := ⟨Value.text⟩

namespace Value

/-- Whether a value counts as present where a default may take its place: `null`, `false`, zero and
whatever is empty do not. -/
def isPresent : Value → Bool
  | null => false
  | bool b => b
  | int n => n != 0
  | float x => x != 0
  | text s => !s.isEmpty
  | list items => !items.isEmpty
  | map entries => !entries.isEmpty

/-- A value, or another in place of one that does not count as present. -/
def orElse (v default : Value) : Value :=
  if v.isPresent then v else default

/-- The text that a value is. -/
def text? : Value → Option String
  | text s => some s
  | _ => none

/-- Whether a value is a map. -/
def isMap : Value → Bool
  | map _ => true
  | _ => false

end Value

end ShaderRecords

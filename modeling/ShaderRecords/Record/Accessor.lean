/-
ShaderRecords.Record.Accessor — where a field lives in the registers of its record.

A field that owns its register is addressed by the register's name. A field that shares one is addressed
by the letters of its components as well.
-/
import ShaderRecords.Document.Whole

namespace ShaderRecords

/-- The letters of the components of a register. -/
def componentLetters : List Char := ['x', 'y', 'z', 'w']

/-- The place in a row of `length` items that an index means: a negative index counts from the end, and
what lies outside moves to the nearer end. -/
def slicePlace (length : Nat) (index : Int) : Nat :=
  if index < 0 then (index + length).toNat else min index.toNat length

/-- The items from one index up to another. -/
def slice {α : Type} (xs : List α) (start stop : Int) : List α :=
  let first := slicePlace xs.length start
  (xs.take (slicePlace xs.length stop)).drop first

/-- The place of a field in a register. -/
structure Accessor where
  field : Value
  register : Value
  offset : Int
  components : Int
  arraySize : Whole := 0
  /-- Whether the field shares its register. -/
  shares : Bool := false
deriving Repr, Inhabited

namespace Accessor

/-- The letters of the field's components, none for a field with a register of its own. -/
def letters (a : Accessor) : List Char :=
  if a.shares then slice componentLetters a.offset (a.offset + a.components) else []

/-- The selection of the field's components. -/
def swizzle (a : Accessor) : String :=
  if a.shares then String.ofList ('.' :: a.letters) else ""

/-- The expression for the field of the record `source`, or for its element at `index`. -/
def expression (a : Accessor) (source : String) (index : String := "") : String :=
  let element := if a.arraySize.toInt > 0 ∧ index ≠ "" then "[" ++ index ++ "]" else ""
  source ++ "." ++ a.register.display ++ element ++ a.swizzle

end Accessor

end ShaderRecords

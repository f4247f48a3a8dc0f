/-
ShaderRecords.Record.Primitive — the primitive kinds of the shader language and the spelling of shapes.
-/
import ShaderRecords.Document.Text
import ShaderRecords.Number.Arithmetic

namespace ShaderRecords

/-- The kind of a field's components; a nested record is a kind of its own. -/
inductive Primitive where
  | float
  | int
  | uint
  | bool
  | half
  | real
  | struct
deriving Repr, DecidableEq, Inhabited

namespace Primitive

/-- The keyword of a kind. -/
def keyword : Primitive → String
  | float => "float"
  | int => "int"
  | uint => "uint"
  | bool => "bool"
  | half => "half"
  | real => "real"
  | struct => "struct"

/-- All kinds. -/
def all : List Primitive := [float, int, uint, bool, half, real, struct]

/-- The kind with a keyword. -/
def ofKeyword? (word : String) : Option Primitive :=
  all.find? (·.keyword == word)

/-- The kinds of floating-point components. -/
def isFloat : Primitive → Bool
  | float | half | real => true
  | _ => false

/-- The type of `rows × cols` components of a kind: `float`, `half3`, `float4x4`. A nested record goes by
its name. -/
def spelling (kind : Primitive) (typeName : Value) (rows cols : Int) : Value :=
  if kind = struct then typeName
  else if rows > 1 then
    .text (kind.keyword ++ toString rows ++ (if cols > 1 then "x" ++ toString cols else ""))
  else .text kind.keyword

/-- A count of components as a part of a spelling, none if it is not above one. -/
def countText? (n : Value) : Except Breakdown (Option String) := do
  return if Number.lt (.int 1) (← n.toNumber) then some n.display else none

/-- The type of components whose counts are values that nobody has checked. The columns matter only where
there are several rows. -/
def uncheckedSpelling (kind : Primitive) (typeName rows cols : Value) : Except Breakdown Value :=
  if kind = struct then .ok typeName
  else do
    match ← countText? rows with
    | none => return .text kind.keyword
    | some rows =>
      match ← countText? cols with
      | none => return .text (kind.keyword ++ rows)
      | some cols => return .text (kind.keyword ++ rows ++ "x" ++ cols)

end Primitive

end ShaderRecords

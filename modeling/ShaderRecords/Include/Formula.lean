/-
ShaderRecords.Include.Formula — the expressions of the functions for packed values.

An expression speaks of the storage word of a record (`Formula.stored`), of the argument of its function
and of constants. Constants of ranges are numbers of a type `α`; when an expression is written they are
rounded to seven significant digits.
-/
import ShaderRecords.Document.Whole
import ShaderRecords.Number.Arithmetic
import ShaderRecords.Number.Limit

namespace ShaderRecords

/-- The functions of the packing library and of the shader language that are called. -/
inductive Intrinsic where
  | unpackUIntToFloat
  | bitFieldExtract
  | bitFieldInsert
  | unpackSmallFloats
  | packSmallFloats
  | saturate
deriving Repr, DecidableEq

namespace Intrinsic

/-- The name of a function. -/
def name : Intrinsic → String
  | unpackUIntToFloat => "UnpackUIntToFloat"
  | bitFieldExtract => "BitFieldExtract"
  | bitFieldInsert => "BitFieldInsert"
  | unpackSmallFloats => "UnpackFromR11G11B10f"
  | packSmallFloats => "PackToR11G11B10f"
  | saturate => "saturate"

end Intrinsic

/-- The operators that are used. -/
inductive Operator where
  | times
  | divide
  | plus
  | minus
  | and
  | shiftLeft
deriving Repr, DecidableEq

namespace Operator

/-- The sign of an operator. -/
def sign : Operator → String
  | times => "*"
  | divide => "/"
  | plus => "+"
  | minus => "-"
  | and => "&"
  | shiftLeft => "<<"

end Operator

/-- An expression of a function for packed values. -/
inductive Formula (α : Type) where
  /-- The storage word. -/
  | stored
  /-- The argument of the function. -/
  | argument
  /-- A constant of a range. -/
  | constant (x : α)
  /-- A whole number as it is spelled. -/
  | whole (n : Whole)
  /-- A whole number as a floating-point constant. -/
  | wholeFloat (n : Nat)
  /-- A whole number as an unsigned constant. -/
  | wholeUint (n : Nat)
  | call (f : Intrinsic) (x : Formula α)
  | call3 (f : Intrinsic) (x y z : Formula α)
  | binary (op : Operator) (x y : Formula α)
  /-- An expression in parentheses. -/
  | group (x : Formula α)
  /-- A number without what stands behind its point. -/
  | toUint (x : Formula α)
deriving Repr

namespace Formula

/-- The text of an expression, with the texts of the storage word and of the argument. -/
def render (stored argument : String) : Formula Number → Except Breakdown String
  | .stored => .ok stored
  | .argument => .ok argument
  | .constant x => x.significantText 7
  | .whole n => .ok n.display
  | .wholeFloat n => do return (← wholeText n) ++ ".0"
  | .wholeUint n => do return (← wholeText n) ++ "u"
  | .call f x => do return f.name ++ "(" ++ (← x.render stored argument) ++ ")"
  | .call3 f x y z => do
    return f.name ++ "(" ++ (← x.render stored argument) ++ ", " ++ (← y.render stored argument) ++ ", "
      ++ (← z.render stored argument) ++ ")"
  | .binary op x y => do
    return (← x.render stored argument) ++ " " ++ op.sign ++ " " ++ (← y.render stored argument)
  | .group x => do return "(" ++ (← x.render stored argument) ++ ")"
  | .toUint x => do return "(uint)" ++ (← x.render stored argument)

end Formula

/-- What a function does to the storage word. -/
inductive Store (α : Type) where
  /-- The word becomes the value of an expression. -/
  | assign (x : Formula α)
  /-- The ones of an expression are added to the word. -/
  | orAssign (x : Formula α)
deriving Repr

/-- The text of a statement. -/
def Store.render (stored argument : String) : Store Number → Except Breakdown String
  | .assign x => do return stored ++ " = " ++ (← x.render stored argument) ++ ";"
  | .orAssign x => do return stored ++ " |= " ++ (← x.render stored argument) ++ ";"

end ShaderRecords

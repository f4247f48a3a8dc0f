/-
ShaderRecords.Number.Arithmetic — the arithmetic of range constants and stored values.

The formulas of the program are written once over `Arithmetic α`. They run on `Number`, where whole
numbers are exact and fractional ones follow IEEE 754, and can be read over `Rat`, where everything is
exact. Dividing by zero and leaving the floating-point range are breakdowns, not values.
-/
import ShaderRecords.Document.Value
import ShaderRecords.Failure
import ShaderRecords.Number.Decimal
import ShaderRecords.Number.Power

namespace ShaderRecords

open scoped Power

/-- What the formulas of the program need of a type of numbers. -/
class Arithmetic (α : Type) where
  zero : α
  one : α
  ofInt : Int → α
  add : α → α → Except Breakdown α
  sub : α → α → Except Breakdown α
  mul : α → α → Except Breakdown α
  div : α → α → Except Breakdown α
  neg : α → α
  lt : α → α → Bool
  same : α → α → Bool
  floor : α → Except Breakdown Int

namespace Arithmetic

variable {α : Type} [Arithmetic α]

/-- The number without its sign. -/
def magnitude (x : α) : α :=
  if lt x zero then neg x else x

/-- The larger of two numbers, the first one unless the second is above it. -/
def larger (x y : α) : α :=
  if lt x y then y else x

/-- The smaller of two numbers, the first one unless the second is below it. -/
def smaller (x y : α) : α :=
  if lt y x then y else x

/-- A number moved to the nearer end of the interval from zero to one, unless it lies inside. -/
def clampUnit (x : α) : α :=
  smaller (larger x zero) one

end Arithmetic

/-- A whole or a fractional number. -/
inductive Number where
  | int (n : Int)
  | float (x : Float)
deriving Repr, Inhabited

namespace Number

/-- The number as a document value. -/
def toValue : Number → Value
  | int n => .int n
  | float x => .float x

/-- A whole number as a floating-point number, the nearest one. -/
def floatOfInt (n : Int) : Except Breakdown Float :=
  if 2 ^ (1024 : Nat) - 2 ^ (970 : Nat) ≤ n.natAbs then .error .tooLarge
  else .ok (Binary64.nearest (n < 0) n.natAbs 1)

/-- The number as a floating-point number. -/
def toFloat : Number → Except Breakdown Float
  | int n => floatOfInt n
  | float x => .ok x

/-- The quotient of two whole numbers, rounded once. -/
def divInt (a b : Int) : Except Breakdown Float :=
  if b = 0 then .error .divisionByZero
  else
    let q := Binary64.nearest (decide (a < 0) != decide (b < 0)) a.natAbs b.natAbs
    if q.isInf then .error .tooLarge else .ok q

/-- The order of a whole and a floating-point number, none for what is not a number. -/
def compareInt (n : Int) (x : Float) : Option Ordering :=
  match Binary64.ofFloat x with
  | .nan => none
  | .infinite negative => some (if negative then .gt else .lt)
  | .finite negative m e =>
    let scaled := (m * 2 ^ e.toNat : Nat)
    some (compare (n * (2 ^ (-e).toNat : Nat)) (if negative then -(scaled : Int) else scaled))

/-- Whether a number is below another. -/
def lt : Number → Number → Bool
  | int a, int b => a < b
  | float x, float y => x < y
  | int a, float y => compareInt a y == some .lt
  | float x, int b => compareInt b x == some .gt

/-- Whether two numbers are equal. -/
def same : Number → Number → Bool
  | int a, int b => a == b
  | float x, float y => x == y
  | int a, float y => compareInt a y == some .eq
  | float x, int b => compareInt b x == some .eq

/-- An operation with an exact form on whole numbers and a rounded one on all others. -/
def combine (exact : Int → Int → Int) (rounded : Float → Float → Float) (a b : Number) :
    Except Breakdown Number :=
  match a, b with
  | int m, int n => .ok (int (exact m n))
  | a, b => do
    let x ← a.toFloat
    let y ← b.toFloat
    return float (rounded x y)

/-- The quotient of two numbers, always a fractional number. -/
def div (a b : Number) : Except Breakdown Number :=
  match a, b with
  | int m, int n => float <$> divInt m n
  | a, b => do
    let x ← a.toFloat
    let y ← b.toFloat
    if y == 0 then .error .divisionByZero else return float (x / y)

/-- The largest whole number that is not above a number. -/
def floor : Number → Except Breakdown Int
  | int n => .ok n
  | float x =>
    match Binary64.ofFloat x with
    | .nan => .error .wrongContent
    | .infinite _ => .error .tooLarge
    | f => .ok (f.floor?.getD 0)

/-- The whole number left when the digits after the point are dropped. -/
def truncate : Number → Except Breakdown Int
  | int n => .ok n
  | float x =>
    match Binary64.ofFloat x with
    | .nan => .error .wrongContent
    | .infinite _ => .error .tooLarge
    | f => .ok (f.truncate?.getD 0)

instance : Arithmetic Number where
  zero := .float 0
  one := .float 1
  ofInt := .int
  add := combine (· + ·) (· + ·)
  sub := combine (· - ·) (· - ·)
  mul := combine (· * ·) (· * ·)
  div := div
  neg
    | int n => int (-n)
    | float x => float (-x)
  lt := lt
  same := same
  floor := floor

/-- The text of a number with at most `digits` significant digits. -/
def significantText (digits : Nat) (x : Number) : Except Breakdown String :=
  Binary64.significantText digits <$> x.toFloat

end Number

instance : Arithmetic Rat where
  zero := 0
  one := 1
  ofInt n := n
  add x y := .ok (x + y)
  sub x y := .ok (x - y)
  mul x y := .ok (x * y)
  div x y := if y = 0 then .error .divisionByZero else .ok (x / y)
  neg x := -x
  lt x y := x < y
  same x y := x == y
  floor x := .ok x.floor

namespace Value

/-- The number that a value is; `true` and `false` count as one and zero. -/
def number? : Value → Option Number
  | int n => some (.int n)
  | float x => some (.float x)
  | bool b => some (.int (if b then 1 else 0))
  | _ => none

/-- The number that a value is. -/
def toNumber (v : Value) : Except Breakdown Number :=
  match v.number? with
  | some x => .ok x
  | none => .error .wrongKind

end Value

end ShaderRecords

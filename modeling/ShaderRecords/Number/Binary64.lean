/-
ShaderRecords.Number.Binary64 — floating-point numbers as exact numbers, and back.

* `Binary64.ofFloat` reads a floating-point number as a sign, a whole mantissa and a power of two.
* `Binary64.nearest` is the floating-point number nearest to a ratio of whole numbers; of two equally
  near ones it takes the one with an even mantissa, and a ratio beyond the largest finite number gives
  an infinity.
-/
import ShaderRecords.Number.Power

namespace ShaderRecords

open scoped Power

/-- What a floating-point number stands for. -/
inductive Binary64 where
  | nan
  | infinite (negative : Bool)
  /-- `± mantissa · 2 ^ exponent` -/
  | finite (negative : Bool) (mantissa : Nat) (exponent : Int)
deriving Repr, DecidableEq

namespace Binary64

/-- The number that a floating-point number stands for. -/
def ofFloat (x : Float) : Binary64 :=
  let bits : Nat := x.toBits.toNat
  let negative := decide (2 ^ (63 : Nat) ≤ bits)
  let field : Nat := bits / 2 ^ (52 : Nat) % 2 ^ (11 : Nat)
  let fraction := bits % 2 ^ (52 : Nat)
  if field = 2047 then
    if fraction = 0 then infinite negative else nan
  else if field = 0 then finite negative fraction (-1074)
  else finite negative (2 ^ (52 : Nat) + fraction) ((field : Int) - 1075)

/-- `num / den` rounded to a whole number, a half to the even neighbour. -/
def roundHalfEven (num den : Nat) : Nat :=
  let q := num / den
  let r := num % den
  if 2 * r < den then q
  else if 2 * r > den then q + 1
  else if q % 2 = 0 then q else q + 1

/-- The power of two in whose units a ratio has 53 binary digits, but never below `2 ^ (-1074)`. -/
def unitExponent (num den : Nat) : Int :=
  let e : Int := (Nat.log2 num : Int) - (Nat.log2 den : Int) - 52
  let e := if num * 2 ^ (-e).toNat < 2 ^ (52 : Nat) * den * 2 ^ e.toNat then e - 1 else e
  max e (-1074)

/-- The bits of the nearest floating-point number to `num / den`, without a sign. -/
def nearestBits (num den : Nat) : Nat :=
  if num = 0 then 0 else
    let e := unitExponent num den
    let q := roundHalfEven (num * 2 ^ (-e).toNat) (den * 2 ^ e.toNat)
    if q < 2 ^ (52 : Nat) then q
    else min ((e + 1075).toNat * 2 ^ (52 : Nat) + (q - 2 ^ (52 : Nat))) (2047 * 2 ^ (52 : Nat))

/-- The floating-point number nearest to `± num / den`. -/
def nearest (negative : Bool) (num den : Nat) : Float :=
  Float.ofBits (UInt64.ofNat ((if negative then 2 ^ (63 : Nat) else 0) + nearestBits num den))

/-- The exact rational value of a finite number. -/
def rat? : Binary64 → Option Rat
  | finite negative m e =>
    let magnitude : Rat := (m * 2 ^ e.toNat : Nat) / (2 ^ (-e).toNat : Nat)
    some (if negative then -magnitude else magnitude)
  | _ => none

/-- The whole number left when the digits after the point are dropped. -/
def truncate? : Binary64 → Option Int
  | finite negative m e =>
    let magnitude : Int := (m * 2 ^ e.toNat / 2 ^ (-e).toNat : Nat)
    some (if negative then -magnitude else magnitude)
  | _ => none

/-- The largest whole number that is not above a finite number. -/
def floor? : Binary64 → Option Int
  | finite negative m e =>
    let magnitude : Int := (m * 2 ^ e.toNat : Nat)
    some (Int.fdiv (if negative then -magnitude else magnitude) (2 ^ (-e).toNat : Nat))
  | _ => none

end Binary64

end ShaderRecords

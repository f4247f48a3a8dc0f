/-
ShaderRecords.Number.Binary16 — half-precision numbers as bit patterns.

The fifteen low bits of a pattern are an exponent field of five bits and a fraction of ten; only numbers
without a sign are needed.
-/
import ShaderRecords.Number.Arithmetic
import ShaderRecords.Number.Power

namespace ShaderRecords.Binary16

open scoped Power

/-- The power of two in whose units a ratio has eleven binary digits, but never below `2 ^ (-24)`. -/
def unitExponent (num den : Nat) : Int :=
  let e : Int := (Nat.log2 num : Int) - (Nat.log2 den : Int) - 10
  let e := if num * 2 ^ (-e).toNat < 2 ^ (10 : Nat) * den * 2 ^ e.toNat then e - 1 else e
  max e (-24)

/-- The pattern of the half-precision number nearest to a ratio; a half goes to the even neighbour. -/
def ofRatio (num den : Nat) : Nat :=
  if num = 0 then 0 else
    let e := unitExponent num den
    let q := Binary64.roundHalfEven (num * 2 ^ (-e).toNat) (den * 2 ^ e.toNat)
    if q < 2 ^ (10 : Nat) then q else min ((e + 25).toNat * 2 ^ (10 : Nat) + (q - 2 ^ (10 : Nat))) (31 * 2 ^ (10 : Nat))

/-- The pattern of what is no number. -/
def nanPattern : Nat := 0x7E00

/-- The pattern of a number, its sign aside. -/
def ofBinary64 : Binary64 → Nat
  | .nan => nanPattern
  | .infinite _ => 31 * 2 ^ (10 : Nat)
  | .finite _ m e => ofRatio (m * 2 ^ e.toNat) (2 ^ (-e).toNat)

/-- The number that a pattern stands for. -/
def toFloat (pattern : Nat) : Float :=
  let field : Nat := pattern / 2 ^ (10 : Nat) % 2 ^ (5 : Nat)
  let fraction := pattern % 2 ^ (10 : Nat)
  if field = 31 then
    if fraction = 0 then 1.0 / 0.0 else 0.0 / 0.0
  else if field = 0 then Binary64.nearest false fraction (2 ^ (24 : Nat))
  else Binary64.nearest false ((2 ^ (10 : Nat) + fraction) * 2 ^ field) (2 ^ (25 : Nat))

end ShaderRecords.Binary16

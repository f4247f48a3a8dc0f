/-
ShaderRecords.Storage.SmallFloat — three numbers in one word.

A channel holds the upper bits of a half-precision number without its sign: seven bits of the half's
fraction are kept for the first two channels, six for the third. The channels take eleven, eleven and
ten bits, the first one highest.
-/
import ShaderRecords.Document.Same
import ShaderRecords.Number.Binary16
import ShaderRecords.Number.Bits
import ShaderRecords.Number.Power

namespace ShaderRecords.SmallFloat

open scoped Power

/-- The largest number that is stored. -/
def largest : Number := .float 65504

/-- The code of a number with `drop` bits of a half's fraction left out; what is below zero or above the
largest number moves to that end. -/
def encode (drop : Nat) (x : Number) : Nat :=
  let clamped := Arithmetic.smaller (Arithmetic.larger x Arithmetic.zero) largest
  let exact :=
    match clamped with
    | .int n => .finite false n.toNat 0
    | .float y => Binary64.ofFloat y
  Binary16.ofBinary64 exact / 2 ^ drop

/-- The number that a code stands for. -/
def decode (drop code : Nat) : Float :=
  Binary16.toFloat (code * 2 ^ drop % 2 ^ (15 : Nat))

/-- The word of three numbers. -/
def pack (r g b : Number) : Nat :=
  encode 4 r * 2 ^ (21 : Nat) ||| encode 4 g * 2 ^ (10 : Nat) ||| encode 5 b

/-- The three numbers of a word. -/
def unpack (word : Int) : Float × Float × Float :=
  (decode 4 (bitsAt word 21 11), decode 4 (bitsAt word 10 11), decode 5 (bitsAt word 0 10))

/-- The word of the numbers in a list of three. -/
def packValue (v : Value) : Except Breakdown Nat := do
  match ← v.elements with
  | [r, g, b] => return pack (← r.toNumber) (← g.toNumber) (← b.toNumber)
  | _ => throw .wrongContent

end ShaderRecords.SmallFloat

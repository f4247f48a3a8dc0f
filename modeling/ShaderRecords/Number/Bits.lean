/-
ShaderRecords.Number.Bits — the bits of whole numbers.

A whole number is read in two's complement with infinitely many bits, so a negative number has ones from
some place upwards. `shiftDown` drops the lowest bits, `bitsAt` reads a run of bits, `clearBits` sets one
to zeros in a 32-bit word, and `orInt` joins the ones of two numbers.
-/
import ShaderRecords.Number.Power

namespace ShaderRecords

open scoped Power

/-- A number without its lowest bits. Above its highest place a number has nothing but copies of its
sign, so no power of two is needed there. -/
def shiftDown (n : Int) (places : Nat) : Int :=
  if n.natAbs.log2 < places then (if n < 0 then -1 else 0) else n / (2 ^ places : Nat)

/-- Dropping the lowest bits divides by a power of two, downwards. -/
theorem shiftDown_eq (n : Int) (places : Nat) : shiftDown n places = n / (2 ^ places : Nat) := by
  unfold shiftDown
  split
  next h =>
    have hlt : n.natAbs < 2 ^ places := Nat.lt_of_lt_of_le Nat.lt_log2_self (Nat.pow_le_pow_right (by decide) h)
    split
    next hn =>
      refine (Int.ediv_eq_iff_of_pos (by exact_mod_cast Nat.two_pow_pos places)).mpr ?_ |>.symm
      omega
    next hn => exact (Int.ediv_eq_zero_of_lt (by omega) (by omega)).symm
  next => rfl

/-- The `width` bits of a number from the place `offset` upwards. -/
def bitsAt (n : Int) (offset width : Nat) : Nat :=
  (shiftDown n offset % (2 ^ width : Nat)).toNat

/-- The low 32 bits of a number. -/
def wordOf (n : Int) : Nat :=
  bitsAt n 0 32

/-- A word with zeros in the `width` places from `offset` upwards. -/
def clearBits (word offset width : Nat) : Nat :=
  let held := bitsAt word offset width
  if held = 0 then word else word - held * 2 ^ offset

/-- The number with a one wherever one of two numbers has a one. -/
def orInt : Int → Int → Int
  | .ofNat m, .ofNat n => .ofNat (m ||| n)
  | .ofNat m, .negSucc n => .negSucc (n - (n &&& m))
  | .negSucc m, .ofNat n => .negSucc (m - (m &&& n))
  | .negSucc m, .negSucc n => .negSucc (m &&& n)

end ShaderRecords

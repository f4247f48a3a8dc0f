/-
ShaderRecords.Number.Limit — how large whole numbers may get.

Whole numbers are exact, but they are not unlimited: one with more than `maxDigits` digits is neither
written nor read, and one can be moved up by so many places only as the memory holds. Zero stays zero
however far it is moved (`shiftUp_zero`).
-/
import ShaderRecords.Document.Value
import ShaderRecords.Failure
import ShaderRecords.Number.Power

namespace ShaderRecords

open scoped Power

/-- How many decimal digits a whole number may have where it is written or read. -/
def maxDigits : Nat := 4300

/-- Whether a whole number can be written. -/
def isWritable (n : Int) : Bool :=
  n.natAbs < 10 ^ maxDigits

/-- The decimal text of a whole number. -/
def wholeText (n : Int) : Except Breakdown String :=
  if isWritable n then .ok (toString n) else .error .wrongContent

mutual

/-- Whether every whole number in a value can be written. -/
def Value.isWritable : Value → Bool
  | .int n => ShaderRecords.isWritable n
  | .list items => itemsWritable items
  | .map entries => entriesWritable entries
  | _ => true

/-- Whether every whole number in the items of a list can be written. -/
def itemsWritable : List Value → Bool
  | [] => true
  | v :: vs => v.isWritable && itemsWritable vs

/-- Whether every whole number in the values of a map can be written. -/
def entriesWritable : List (String × Value) → Bool
  | [] => true
  | (_, v) :: es => v.isWritable && entriesWritable es

end

/-- The count of places from which on a number moved up does not fit into memory. -/
def memoryPlaces : Int := 2 ^ (32 : Nat)

/-- The count of places from which on the length of a number moved up cannot be told. -/
def addressPlaces : Int := 30 * 2 ^ (61 : Nat)

/-- A whole number moved up by binary places; a negative count of places makes no sense. -/
def shiftUp (n places : Int) : Except Breakdown Int :=
  if places < 0 then .error .wrongContent
  else if n = 0 then .ok 0
  else if places ≥ addressPlaces then .error .tooLarge
  else if places ≥ memoryPlaces then .error .outOfMemory
  else .ok (n * (2 ^ places.toNat : Nat))

theorem shiftUp_zero {places : Int} (h : 0 ≤ places) : shiftUp 0 places = .ok 0 := by
  simp [shiftUp, Int.not_lt.mpr h]

/-- A number that can be moved up is multiplied by a power of two. -/
theorem eq_mul_of_shiftUp {n places m : Int} (h : shiftUp n places = .ok m) :
    m = n * (2 ^ places.toNat : Nat) := by
  unfold shiftUp at h
  split at h
  · exact absurd h (by simp)
  · split at h
    next hn =>
      subst hn
      simpa using (Except.ok.inj h).symm
    next =>
      split at h
      · exact absurd h (by simp)
      · split at h
        · exact absurd h (by simp)
        · exact (Except.ok.inj h).symm

end ShaderRecords

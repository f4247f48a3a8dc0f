/-
ShaderRecords.Proofs.Number.Equality — when floating-point numbers count as equal.

Numbers are compared by their unpacked bits, but the sign of a zero does not count, and what is not a number
equals nothing. `Binary64.essence` is what is left to be compared, so that equality of numbers is equality of
their essences (`beq_iff`), and what documents call equal, where nothing but numbers of no value are made equal
to each other as well, is just that (`beq_or_isNaN_iff`).
-/
import Mathlib
import ShaderRecords.Number.Binary64

namespace ShaderRecords.Binary64

open Float.Model Float.Model.UnpackedFloat

/-- Unpacked bits without the sign of a zero. -/
def withoutSignOfZero : UnpackedFloat → UnpackedFloat
  | .zero _ => .zero .positive
  | u => u

/-- What a floating-point number is compared by. -/
def essence (x : Float) : UnpackedFloat :=
  withoutSignOfZero x.toModel.unpack

theorem compare_sign_eq_iff (s s' : Sign) : compare s s' = .eq ↔ s = s' := by
  cases s <;> cases s' <;> simp <;> decide

/-- Of two numbers of different kinds or signs one is the larger one, and two finite ones of one sign are compared
by exponent and mantissa. -/
theorem unpacked_beq_iff (a b : UnpackedFloat) :
    a.beq b = true
      ↔ withoutSignOfZero a = withoutSignOfZero b ∧ withoutSignOfZero a ≠ .notANumber := by
  unfold UnpackedFloat.beq withoutSignOfZero
  rcases a with ⟨_ | _⟩ | _ | s | ⟨_ | _, m, e, h⟩ <;>
    rcases b with ⟨_ | _⟩ | _ | s' | ⟨_ | _, m', e', h'⟩ <;>
    simp [UnpackedFloat.compare, compare_sign_eq_iff, and_comm]

/-- Numbers are equal if they are compared by the same, and are numbers. -/
theorem beq_iff (x y : Float) : (x == y) = true ↔ essence x = essence y ∧ essence x ≠ .notANumber :=
  unpacked_beq_iff x.toModel.unpack y.toModel.unpack

theorem isNaN_iff (x : Float) : x.isNaN = true ↔ essence x = .notANumber := by
  show (x.toModel.unpack).isNaN = true ↔ withoutSignOfZero x.toModel.unpack = _
  cases x.toModel.unpack <;> simp [UnpackedFloat.isNaN, withoutSignOfZero]

/-- Numbers count as equal whichever stands first. -/
theorem beq_comm (x y : Float) : (x == y) = (y == x) := by
  rw [Bool.eq_iff_iff, beq_iff, beq_iff]
  constructor
  · rintro ⟨h, hnumber⟩
    exact ⟨h.symm, h ▸ hnumber⟩
  · rintro ⟨h, hnumber⟩
    exact ⟨h.symm, h ▸ hnumber⟩

/-- In a document numbers count as equal if they are compared by the same. -/
theorem beq_or_isNaN_iff (x y : Float) :
    (x == y || x.isNaN && y.isNaN) = true ↔ essence x = essence y := by
  rw [Bool.or_eq_true, Bool.and_eq_true, beq_iff, isNaN_iff, isNaN_iff]
  constructor
  · rintro (⟨h, -⟩ | ⟨hx, hy⟩)
    · exact h
    · rw [hx, hy]
  · intro h
    by_cases hx : essence x = .notANumber
    · exact Or.inr ⟨hx, h ▸ hx⟩
    · exact Or.inl ⟨h, hx⟩

end ShaderRecords.Binary64

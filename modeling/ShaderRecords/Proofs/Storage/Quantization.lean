/-
ShaderRecords.Proofs.Storage.Quantization — codes of a range in exact arithmetic.

Over the rational numbers no step of quantization fails when the ends of the range differ. A value has its
place in the range (`normalizeIn_eq`), the place, moved into the interval from zero to one, has its code
(`quantize_eq`), the code is one of the field (`exists_code`), and a code stands for a value of the range
(`dequantize_eq`).
-/
import Mathlib.Algebra.Order.Field.Rat
import Mathlib.Data.Rat.Floor
import ShaderRecords.Proofs.Storage.BitField

namespace ShaderRecords

/-! ## Exact arithmetic -/

section Exact

variable (x y : Rat)

@[simp] theorem zero_rat : (Arithmetic.zero : Rat) = 0 := rfl

@[simp] theorem one_rat : (Arithmetic.one : Rat) = 1 := rfl

@[simp] theorem ofInt_rat (n : Int) : (Arithmetic.ofInt n : Rat) = n := rfl

@[simp] theorem add_rat : Arithmetic.add x y = .ok (x + y) := rfl

@[simp] theorem sub_rat : Arithmetic.sub x y = .ok (x - y) := rfl

@[simp] theorem mul_rat : Arithmetic.mul x y = .ok (x * y) := rfl

theorem div_rat {y : Rat} (hy : y ≠ 0) : Arithmetic.div x y = .ok (x / y) := by
  show (if y = 0 then Except.error Breakdown.divisionByZero else .ok (x / y)) = .ok (x / y)
  rw [if_neg hy]

@[simp] theorem lt_rat : Arithmetic.lt x y = decide (x < y) := rfl

@[simp] theorem same_rat : Arithmetic.same x y = decide (x = y) := by
  show (x == y) = decide (x = y)
  rw [beq_eq_decide]

@[simp] theorem floor_rat : Arithmetic.floor x = .ok ⌊x⌋ := rfl

/-- The number without its sign is its absolute value. -/
theorem magnitude_rat : Arithmetic.magnitude x = |x| := by
  unfold Arithmetic.magnitude
  by_cases hx : x < 0
  · simp only [lt_rat, zero_rat, hx, decide_true, if_true]
    exact (abs_of_neg hx).symm
  · simp only [lt_rat, zero_rat, hx, decide_false, Bool.false_eq_true, if_false]
    exact (abs_of_nonneg (not_lt.mp hx)).symm

/-- Moving a number to the nearer end of the unit interval, by minimum and maximum. -/
theorem clampUnit_rat : Arithmetic.clampUnit x = min (max x 0) 1 := by
  have hlarger : Arithmetic.larger x 0 = max x 0 := by
    unfold Arithmetic.larger
    by_cases hx : x < 0
    · simp [hx, hx.le]
    · simp [hx, not_lt.mp hx]
  unfold Arithmetic.clampUnit Arithmetic.smaller
  rw [zero_rat, one_rat, hlarger]
  by_cases hone : 1 < max x 0
  · simp only [lt_rat, hone, decide_true, if_true]
    exact (min_eq_right hone.le).symm
  · simp only [lt_rat, hone, decide_false, Bool.false_eq_true, if_false]
    exact (min_eq_left (not_lt.mp hone)).symm

end Exact

/-! ## Codes -/

/-- The place of a value in a range with two ends. -/
theorem normalizeIn_eq {range : Rat × Rat} (h : range.1 ≠ range.2) (x : Rat) :
    normalizeIn range x = .ok ((x - range.1) / (range.2 - range.1)) := by
  have hlength : range.2 - range.1 ≠ 0 := sub_ne_zero.mpr h.symm
  rw [normalizeIn, sub_rat, ok_bind, sub_rat, ok_bind, div_rat _ hlength]

/-- The value at a place of a range. -/
theorem denormalizeIn_eq (range : Rat × Rat) (t : Rat) :
    denormalizeIn range t = .ok (t * (range.2 - range.1) + range.1) := by
  rw [denormalizeIn, sub_rat, ok_bind, mul_rat, ok_bind, add_rat]

/-- The code of a place, moved into the unit interval. -/
theorem codeOf_eq (mask : Nat) (t : Rat) : codeOf mask t = .ok ⌊min (max t 0) 1 * mask⌋ := by
  rw [codeOf, clampUnit_rat, mul_rat, ok_bind, floor_rat]
  rfl

/-- No code is negative. -/
theorem codeOf_nonneg (mask : Nat) (t : Rat) : 0 ≤ ⌊min (max t 0) 1 * mask⌋ := by
  rw [Int.floor_nonneg]
  exact mul_nonneg (le_min (le_max_right t 0) zero_le_one) (Nat.cast_nonneg mask)

/-- No code is larger than the code of one. -/
theorem codeOf_le (mask : Nat) (t : Rat) : ⌊min (max t 0) 1 * mask⌋ ≤ mask := by
  have hle : min (max t 0) 1 * (mask : Rat) ≤ mask :=
    mul_le_of_le_one_left (Nat.cast_nonneg mask) (min_le_right _ _)
  exact_mod_cast (Int.floor_le _).trans hle

namespace Layout.IsBitField

variable {l : Layout Rat}

/-- The code of a number of the range. -/
theorem quantize_eq (h : l.IsBitField) (hends : l.range.1 ≠ l.range.2) (x : Rat) :
    l.quantize x
      = .ok ⌊min (max ((x - l.range.1) / (l.range.2 - l.range.1)) 0) 1 * (2 ^ l.bits - 1 : Nat)⌋ := by
  rw [quantize, normalizeIn_eq hends, ok_bind, h.mask_eq, ok_bind, codeOf_eq]

/-- A number of the range has a code, and the field has bits for it. -/
theorem exists_code (h : l.IsBitField) (hends : l.range.1 ≠ l.range.2) (x : Rat) :
    ∃ code : Nat, code < 2 ^ l.bits
      ∧ ⌊min (max ((x - l.range.1) / (l.range.2 - l.range.1)) 0) 1 * (2 ^ l.bits - 1 : Nat)⌋ = code
      ∧ l.quantize x = .ok (code : Int) := by
  obtain ⟨code, hcode⟩ := Int.eq_ofNat_of_zero_le
    (codeOf_nonneg (2 ^ l.bits - 1) ((x - l.range.1) / (l.range.2 - l.range.1)))
  have hle := codeOf_le (2 ^ l.bits - 1) ((x - l.range.1) / (l.range.2 - l.range.1))
  rw [hcode] at hle
  have hmask : code ≤ 2 ^ l.bits - 1 := by exact_mod_cast hle
  have hpos := Nat.two_pow_pos l.bits
  exact ⟨code, by omega, hcode, by rw [h.quantize_eq hends, hcode]⟩

/-- A bit field has a code that is not zero. -/
theorem mask_ne_zero (h : l.IsBitField) : ((2 ^ l.bits - 1 : Nat) : Rat) ≠ 0 := by
  have htwo : 2 ^ 1 ≤ 2 ^ l.bits := Nat.pow_le_pow_right (by decide) h.one_le_bits
  exact Nat.cast_ne_zero.mpr (by omega)

/-- The number of the range that a code stands for. -/
theorem dequantize_eq (h : l.IsBitField) (code : Int) :
    l.dequantize code
      = .ok (code / (2 ^ l.bits - 1 : Nat) * (l.range.2 - l.range.1) + l.range.1) := by
  rw [dequantize, h.mask_eq, ok_bind, ofInt_rat, ofInt_rat, Int.cast_natCast, div_rat _ h.mask_ne_zero,
    ok_bind, denormalizeIn_eq]

/-- What a field with a range holds is the number that its bits stand for. -/
theorem decodeBits_of_normalized (h : l.IsBitField) (hnormalized : l.normalized = true) (w : Nat) :
    l.decodeBits w = .ok (.fraction (bitsAt w l.start l.bits / (2 ^ l.bits - 1 : Nat)
      * (l.range.2 - l.range.1) + l.range.1)) := by
  rw [decodeBits, h.code_eq, ok_bind, if_pos hnormalized, h.dequantize_eq, ok_bind, Int.cast_natCast]
  rfl

end Layout.IsBitField

end ShaderRecords

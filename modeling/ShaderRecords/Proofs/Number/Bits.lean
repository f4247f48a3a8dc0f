/-
ShaderRecords.Proofs.Number.Bits — runs of bits in words, told bit by bit.

Each operation on the bits of a word gets one equation that says what its bits are: `testBit_bitsAt` for a
run that is read, `testBit_clearBits` for one that is set to zeros, `testBit_replaceBits` for one that is
replaced. Two words are then compared by comparing their bits, so what follows about replacing runs needs
no arithmetic: a replaced run is read back (`bitsAt_replaceBits`), other runs are kept
(`bitsAt_replaceBits_of_apart`), runs that are apart are replaced in any order (`replaceBits_comm`), and of
two replacements of one run the second counts (`replaceBits_replaceBits`).
-/
import Mathlib.Data.Nat.Bitwise
import ShaderRecords.Number.Bits

namespace ShaderRecords

/-! ## Reading a run of bits -/

/-- The run of bits of a word, by division. -/
theorem bitsAt_natCast (w offset width : Nat) :
    bitsAt w offset width = w / 2 ^ offset % 2 ^ width := by
  have h : (w : Int) / (2 ^ offset : Nat) % (2 ^ width : Nat)
      = ((w / 2 ^ offset % 2 ^ width : Nat) : Int) := by norm_cast
  rw [bitsAt, shiftDown_eq, h, Int.toNat_natCast]

/-- A run of bits is a number of as many bits. -/
theorem bitsAt_lt (n : Int) (offset width : Nat) : bitsAt n offset width < 2 ^ width := by
  have hpos : (0 : Int) < (2 ^ width : Nat) := by exact_mod_cast Nat.two_pow_pos width
  have hnonneg := Int.emod_nonneg (shiftDown n offset) (Int.ne_of_gt hpos)
  have hlt := Int.emod_lt_of_pos (shiftDown n offset) hpos
  unfold bitsAt
  omega

/-- The bits of a run are those of the word from the place of the run upwards. -/
theorem testBit_bitsAt (w offset width i : Nat) :
    (bitsAt w offset width).testBit i = (decide (i < width) && w.testBit (offset + i)) := by
  rw [bitsAt_natCast, Nat.testBit_mod_two_pow, Nat.testBit_div_two_pow, Nat.add_comm]

/-- A word of 32 bits is the low 32 bits of itself. -/
theorem wordOf_of_lt {w : Nat} (h : w < 2 ^ 32) : wordOf w = w := by
  rw [wordOf, bitsAt_natCast, Nat.pow_zero, Nat.div_one, Nat.mod_eq_of_lt h]

/-- A number of some bits has no one above them. -/
theorem testBit_eq_false_of_le {n size i : Nat} (hn : n < 2 ^ size) (hi : size ≤ i) : n.testBit i = false :=
  Nat.testBit_lt_two_pow (Nat.lt_of_lt_of_le hn (Nat.pow_le_pow_right (by decide) hi))

/-- Two runs of bits are equal when they are bit by bit. -/
theorem bitsAt_eq_bitsAt_iff {v w offset width : Nat} :
    bitsAt v offset width = bitsAt w offset width
      ↔ ∀ i, offset ≤ i → i < offset + width → v.testBit i = w.testBit i := by
  constructor
  · intro h i hlow hhigh
    have hbit := congrArg (fun n => n.testBit (i - offset)) h
    simp only [testBit_bitsAt] at hbit
    rw [Nat.add_sub_cancel' hlow] at hbit
    simpa [show i - offset < width by omega] using hbit
  · intro h
    refine Nat.eq_of_testBit_eq fun i => ?_
    rw [testBit_bitsAt, testBit_bitsAt]
    rcases Nat.lt_or_ge i width with hi | hi
    · rw [h (offset + i) (by omega) (by omega)]
    · simp [Nat.not_lt.mpr hi]

/-! ## Clearing a run of bits -/

/-- A word in three parts: what is below a run of bits, the run, and what is above it. -/
theorem eq_parts (w offset width : Nat) :
    w = 2 ^ offset * (2 ^ width * (w / 2 ^ (offset + width)) + bitsAt w offset width)
      + w % 2 ^ offset := by
  have hlow := Nat.div_add_mod w (2 ^ offset)
  have hhigh := Nat.div_add_mod (w / 2 ^ offset) (2 ^ width)
  rw [Nat.div_div_eq_div_mul, ← Nat.pow_add] at hhigh
  rw [bitsAt_natCast, hhigh, hlow]

/-- A word without a run of bits in the parts that are left. -/
theorem clearBits_eq_parts (w offset width : Nat) :
    clearBits w offset width
      = 2 ^ offset * (2 ^ width * (w / 2 ^ (offset + width)) + 0) + w % 2 ^ offset := by
  have hparts := eq_parts w offset width
  have hexpand : w = 2 ^ offset * (2 ^ width * (w / 2 ^ (offset + width)))
      + bitsAt w offset width * 2 ^ offset + w % 2 ^ offset := by
    calc w = _ := hparts
      _ = _ := by rw [Nat.mul_add, Nat.mul_comm (bitsAt w offset width)]
  unfold clearBits
  by_cases h : bitsAt w offset width = 0
  · rw [if_pos h, ← h]
    exact hparts
  · rw [if_neg h]
    simp only [Nat.add_zero]
    omega

/-- Clearing a run of bits sets its bits to zeros and keeps all others. -/
theorem testBit_clearBits (w offset width i : Nat) :
    (clearBits w offset width).testBit i
      = (w.testBit i && !decide (offset ≤ i ∧ i < offset + width)) := by
  have hlow : w % 2 ^ offset < 2 ^ offset := Nat.mod_lt _ (Nat.two_pow_pos _)
  have hw : w.testBit i
      = if i < offset then (w % 2 ^ offset).testBit i
        else if i - offset < width then (bitsAt w offset width).testBit (i - offset)
        else (w / 2 ^ (offset + width)).testBit (i - offset - width) := by
    conv_lhs => rw [eq_parts w offset width]
    rw [Nat.testBit_two_pow_mul_add _ hlow, Nat.testBit_two_pow_mul_add _ (bitsAt_lt w offset width)]
  have hcleared : (clearBits w offset width).testBit i
      = if i < offset then (w % 2 ^ offset).testBit i
        else if i - offset < width then (0 : Nat).testBit (i - offset)
        else (w / 2 ^ (offset + width)).testBit (i - offset - width) := by
    rw [clearBits_eq_parts, Nat.testBit_two_pow_mul_add _ hlow,
      Nat.testBit_two_pow_mul_add _ (Nat.two_pow_pos width)]
  rw [hcleared, hw]
  by_cases hi : i < offset
  · simp [hi, Nat.not_le.mpr hi]
  · by_cases hk : i - offset < width
    · have hin : offset ≤ i ∧ i < offset + width := by omega
      simp [hi, hk, hin]
    · have hout : ¬(offset ≤ i ∧ i < offset + width) := by omega
      simp [hi, hk, hout]

/-! ## Replacing a run of bits -/

/-- A word with a run of bits replaced by those of a code. -/
def replaceBits (w offset width code : Nat) : Nat :=
  clearBits w offset width ||| code * 2 ^ offset

/-- The number with the ones of two words. -/
theorem orInt_natCast (m n : Nat) : orInt m n = (m ||| n : Nat) := rfl

/-- A code moved up has its bits higher up and zeros below them. -/
theorem testBit_mul_two_pow (code offset i : Nat) :
    (code * 2 ^ offset).testBit i = (decide (offset ≤ i) && code.testBit (i - offset)) := by
  rw [← Nat.shiftLeft_eq, Nat.testBit_shiftLeft]

/-- Replacing a run of bits gives it the bits of the code and keeps all others. -/
theorem testBit_replaceBits {w offset width code : Nat} (hcode : code < 2 ^ width) (i : Nat) :
    (replaceBits w offset width code).testBit i
      = if offset ≤ i ∧ i < offset + width then code.testBit (i - offset) else w.testBit i := by
  rw [replaceBits, Nat.testBit_or, testBit_clearBits, testBit_mul_two_pow]
  by_cases hin : offset ≤ i ∧ i < offset + width
  · simp [hin]
  · rw [if_neg hin]
    by_cases hi : offset ≤ i
    · -- above the run the code has no bits
      have hhigh : code.testBit (i - offset) = false := testBit_eq_false_of_le hcode (by omega)
      simp [hin, hhigh]
    · simp [hi]

/-- A word of some bits stays one when a run inside it is replaced. -/
theorem replaceBits_lt {w offset width code size : Nat} (hw : w < 2 ^ size)
    (hcode : code < 2 ^ width) (hfits : offset + width ≤ size) :
    replaceBits w offset width code < 2 ^ size := by
  refine Nat.lt_pow_two_of_testBit _ fun i hi => ?_
  rw [testBit_replaceBits hcode, if_neg (by omega)]
  exact testBit_eq_false_of_le hw hi

/-- A replaced run is read back. -/
theorem bitsAt_replaceBits {w offset width code : Nat} (hcode : code < 2 ^ width) :
    bitsAt (replaceBits w offset width code) offset width = code := by
  refine Nat.eq_of_testBit_eq fun i => ?_
  rw [testBit_bitsAt, testBit_replaceBits hcode]
  by_cases hi : i < width
  · rw [if_pos ⟨Nat.le_add_right .., Nat.add_lt_add_left hi offset⟩, Nat.add_sub_cancel_left]
    simp [hi]
  · have hhigh : code.testBit i = false := testBit_eq_false_of_le hcode (Nat.not_lt.mp hi)
    simp [hi, hhigh]

/-- Of two replacements of one run the second counts. -/
theorem replaceBits_replaceBits {w offset width first second : Nat} (hfirst : first < 2 ^ width)
    (hsecond : second < 2 ^ width) :
    replaceBits (replaceBits w offset width first) offset width second
      = replaceBits w offset width second := by
  refine Nat.eq_of_testBit_eq fun i => ?_
  rw [testBit_replaceBits hsecond, testBit_replaceBits hsecond, testBit_replaceBits hfirst]
  by_cases hin : offset ≤ i ∧ i < offset + width
  · rw [if_pos hin, if_pos hin]
  · rw [if_neg hin, if_neg hin, if_neg hin]

/-- A run is kept when another one, apart from it, is replaced. -/
theorem bitsAt_replaceBits_of_apart {w offset width code offset' width' : Nat}
    (hcode : code < 2 ^ width) (h : offset + width ≤ offset' ∨ offset' + width' ≤ offset) :
    bitsAt (replaceBits w offset width code) offset' width' = bitsAt w offset' width' := by
  rw [bitsAt_eq_bitsAt_iff]
  intro i hlow hhigh
  rw [testBit_replaceBits hcode, if_neg (by omega)]

/-- Runs that are apart may be replaced in any order. -/
theorem replaceBits_comm {w offset width code offset' width' code' : Nat} (hcode : code < 2 ^ width)
    (hcode' : code' < 2 ^ width') (h : offset + width ≤ offset' ∨ offset' + width' ≤ offset) :
    replaceBits (replaceBits w offset width code) offset' width' code'
      = replaceBits (replaceBits w offset' width' code') offset width code := by
  refine Nat.eq_of_testBit_eq fun i => ?_
  rw [testBit_replaceBits hcode', testBit_replaceBits hcode, testBit_replaceBits hcode,
    testBit_replaceBits hcode']
  by_cases hin : offset ≤ i ∧ i < offset + width
  · rw [if_pos hin, if_pos hin, if_neg (by omega)]
  · rw [if_neg hin, if_neg hin]

/-- Where a run has zeros, adding the ones of a code replaces it. -/
theorem replaceBits_of_zero {w offset width : Nat} (h : bitsAt w offset width = 0) (code : Nat) :
    replaceBits w offset width code = w ||| code * 2 ^ offset := by
  rw [replaceBits, clearBits]
  simp [h]

end ShaderRecords

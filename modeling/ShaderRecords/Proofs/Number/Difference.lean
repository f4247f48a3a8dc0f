/-
ShaderRecords.Proofs.Number.Difference — different floating-point numbers have a difference.

`sub_ne_zero_of_ne` says that the difference of two floating-point numbers that do not count as equal does
not count as zero, infinities and what is not a number included. It is what a division by the width of a
range rests on.

Floating-point numbers are read as their logical model has them: bits are unpacked into a sign, a whole
mantissa and an exponent, and packed again after an operation. Two facts carry the proof. A number whose
digits begin at an exponent that can be stored is not rounded to zero (`exists_round_eq`), and numbers that
are equal as ratios are stored with one mantissa and one exponent (`InRange.eq_of_scaled_eq`).
-/
import Mathlib
import ShaderRecords.Proofs.Number.Equality

namespace ShaderRecords.Binary64

open Float.Model Float.Model.UnpackedFloat

/-! ## Rounding -/

/-- A whole mantissa and an exponent that a floating-point number may have: only the numbers of the least
exponent have fewer than 53 binary digits. -/
structure InRange (m : Nat) (e : Int) : Prop where
  lt : m < 2 ^ 53
  le : -1074 ≤ e
  full : e = -1074 ∨ 2 ^ 52 ≤ m

theorem targetExponent_eq (t : Int) : Format.binary64.targetExponent t = max (t - 53) (-1074) := by
  simp only [Format.targetExponent]
  rfl

theorem mantissa_shiftRight (n : Nat) (em : ExtendedMantissa) :
    (em >>> n).mantissa = em.mantissa / 2 ^ n := by
  induction n with
  | zero => simp [HShiftRight.hShiftRight, Nat.repeat]
  | succ n ih =>
    have hstep : em >>> (n + 1) = ExtendedMantissa.shiftRightOne (em >>> n) := rfl
    rw [hstep, ExtendedMantissa.shiftRightOne, ih, Nat.div_div_eq_div_mul, Nat.pow_succ]

theorem mantissa_ofMantissaAndAccuracy (m : Nat) (a : Accuracy) :
    (ExtendedMantissa.ofMantissaAndAccuracy m a).mantissa = m := by
  match a with
  | .exact | .inexact .lt | .inexact .eq | .inexact .gt => rfl

theorem le_roundToNearestEven (m : Nat) (a : Accuracy) : m ≤ a.roundToNearestEven m := by
  match a with
  | .exact | .inexact .lt | .inexact .eq | .inexact .gt => simp [Accuracy.roundToNearestEven]

/-- The mantissa that is left at the exponent at which a number is stored has one digit at least and 53
at most. -/
theorem shifted_bounds {m : Nat} {e : Int} (hm : 0 < m) (he : -1074 ≤ e) :
    0 < m / 2 ^ (Format.binary64.targetExponent (totalExponent m e) - e).toNat
      ∧ m / 2 ^ (Format.binary64.targetExponent (totalExponent m e) - e).toNat < 2 ^ 53 := by
  have hlow := Nat.log2_self_le (Nat.ne_of_gt hm)
  have hhigh : m < 2 ^ (m.log2 + 1) := Nat.lt_log2_self
  rw [targetExponent_eq, totalExponent]
  generalize m.log2 = digits at hlow hhigh
  have hplaces : (max ((digits : Int) + 1 + e - 53) (-1074) - e).toNat = digits - 52 := by omega
  rw [hplaces]
  constructor
  · exact Nat.div_pos ((Nat.pow_le_pow_right (by decide) (Nat.sub_le digits 52)).trans hlow)
      (Nat.two_pow_pos _)
  · rw [Nat.div_lt_iff_lt_mul (Nat.two_pow_pos _), ← Nat.pow_add]
    exact hhigh.trans_le (Nat.pow_le_pow_right (by decide) (by omega))

/-- A number whose digits begin at a storable exponent is not rounded to zero, nor beyond 53 digits. -/
theorem exists_roundWithAccuracy_eq (s : Sign) {m : Nat} {e : Int} (hm : 0 < m) (he : -1074 ≤ e)
    (a : Accuracy) :
    ∃ m' e' h, roundWithAccuracy Format.binary64 s m e a = .finite s m' e' h ∧ m' < 2 ^ 53
      ∧ -1074 ≤ e' := by
  obtain ⟨hpos, -⟩ := shifted_bounds hm he
  unfold roundWithAccuracy shiftToTargetExponent shiftToExponent
  simp only [mantissa_shiftRight, mantissa_ofMantissaAndAccuracy]
  generalize (Format.binary64.targetExponent (totalExponent m e) - e).toNat = places at hpos ⊢
  have hrounded : 0 < (ExtendedMantissa.ofMantissaAndAccuracy m a >>> places).roundedMantissa := by
    rw [ExtendedMantissa.roundedMantissa]
    refine Nat.lt_of_lt_of_le ?_ (le_roundToNearestEven _ _)
    rwa [mantissa_shiftRight, mantissa_ofMantissaAndAccuracy]
  obtain ⟨hpos', hlt⟩ := shifted_bounds hrounded (e := e + places) (by omega)
  rw [dif_neg (Nat.ne_of_gt hpos')]
  exact ⟨_, _, hpos', rfl, hlt, by omega⟩

theorem exists_round_eq (s : Sign) {m : Nat} {e : Int} (hm : 0 < m) (he : -1074 ≤ e) :
    ∃ m' e' h, UnpackedFloat.round Format.binary64 s m e = .finite s m' e' h ∧ m' < 2 ^ 53 ∧ -1074 ≤ e' := by
  unfold UnpackedFloat.round decreaseExponent
  refine exists_roundWithAccuracy_eq s ?_ ?_ _
  · rw [Nat.shiftLeft_eq]
    exact Nat.mul_pos hm (Nat.two_pow_pos _)
  · rw [targetExponent_eq]
    omega

/-! ## Numbers and their bits -/

/-- What is read back of a number that was put into bits. -/
abbrev readBack (x : UnpackedFloat) : UnpackedFloat :=
  UnpackedFloat.unpack Format.binary64 (UnpackedFloat.pack Format.binary64 x)

/-- The bits of a floating-point number stand for a number whose mantissa has 53 digits, or fewer at the
least exponent. -/
theorem inRange_of_unpack {b : BitVec Format.binary64.numBits} {s : Sign} {m : Nat} {e : Int} {h : 0 < m}
    (hb : UnpackedFloat.unpack Format.binary64 b = .finite s m e h) : InRange m e := by
  have hbias : (Format.binary64.exponentBias : Int) + Format.binary64.mantissaBitsWithoutImplicit = 1075 := by
    decide
  have hm : (unpackMantissa b).toNat < 2 ^ 52 := (unpackMantissa b).isLt
  unfold UnpackedFloat.unpack at hb
  simp only [hbias] at hb
  split at hb
  · split at hb <;> simp at hb
  · split at hb
    next hzero =>
      split at hb
      · simp at hb
      · simp only [hzero, UnpackedFloat.finite.injEq, BitVec.toNat_ofNat] at hb
        obtain ⟨-, rfl, rfl⟩ := hb
        exact ⟨by omega, by decide, Or.inl (by decide)⟩
    next hzero =>
      have hone : ((1#1 : BitVec 1) ++ unpackMantissa b).toNat = 2 ^ 52 + (unpackMantissa b).toNat := by
        rw [BitVec.toNat_append, ← Nat.shiftLeft_add_eq_or_of_lt hm, Nat.shiftLeft_eq]
        rfl
      have hpos := BitVec.toNat_pos_of_ne_zero hzero
      simp only [UnpackedFloat.finite.injEq] at hb
      obtain ⟨-, rfl, rfl⟩ := hb
      exact ⟨by omega, by omega, Or.inr (by omega)⟩

/-- The bits of a zero have no exponent and no mantissa. -/
theorem components_of_unpack_zero {b : BitVec Format.binary64.numBits} {s : Sign}
    (hb : UnpackedFloat.unpack Format.binary64 b = .zero s) :
    unpackExponent b = 0#_ ∧ unpackMantissa b = 0#_ := by
  unfold UnpackedFloat.unpack at hb
  simp only at hb
  split at hb
  · split at hb <;> simp at hb
  · split at hb
    next hexponent =>
      split at hb
      next hmantissa => exact ⟨hexponent, hmantissa⟩
      next => simp at hb
    next => simp at hb

/-- A number with at most 53 digits is not read back as zero. -/
theorem readBack_finite_ne_zero {s s' : Sign} {m : Nat} {e : Int} (h : 0 < m) (hlt : m < 2 ^ 53)
    (he : -1074 ≤ e) : readBack (.finite s m e h) ≠ .zero s' := by
  intro hb
  obtain ⟨hexponent, hmantissa⟩ := components_of_unpack_zero hb
  have hbias : Format.binary64.exponentBias = 1023 := by decide
  unfold UnpackedFloat.pack at hexponent hmantissa
  simp only [hbias] at hexponent hmantissa
  split at hexponent
  · rw [packedInfinity, unpackExponent_packComponents] at hexponent
    exact absurd hexponent (by decide)
  next hfits =>
    rw [if_neg hfits] at hmantissa
    split at hexponent
    · rw [unpackExponent_packComponents] at hexponent
      have hstored := congrArg BitVec.toNat hexponent
      simp only [BitVec.toNat_ofNat] at hstored
      omega
    next hdigits =>
      rw [if_neg hdigits, unpackMantissa_packComponents] at hmantissa
      have hstored := congrArg BitVec.toNat hmantissa
      have hlog : m.log2 < 53 := (Nat.log2_lt (by omega)).mpr hlt
      have hfull : Format.binary64.mantissaBits = 53 := rfl
      have hsmall : m < 2 ^ 52 := (Nat.log2_lt (by omega)).mp (by omega)
      simp only [BitVec.toNat_ofNat, Nat.mod_eq_of_lt hsmall, Nat.zero_mod] at hstored
      omega

theorem readBack_infinity_ne_zero (s s' : Sign) : readBack (.infinity s) ≠ .zero s' := by
  intro hb
  obtain ⟨hexponent, -⟩ := components_of_unpack_zero hb
  rw [UnpackedFloat.pack, packedInfinity, unpackExponent_packComponents] at hexponent
  exact absurd hexponent (by decide)

theorem readBack_notANumber_ne_zero (s : Sign) : readBack .notANumber ≠ .zero s := by
  intro hb
  obtain ⟨hexponent, -⟩ := components_of_unpack_zero hb
  rw [UnpackedFloat.pack, packedNaN, unpackExponent_packComponents] at hexponent
  exact absurd hexponent (by decide)

theorem readBack_round_ne_zero (s s' : Sign) {m : Nat} {e : Int} (hm : 0 < m) (he : -1074 ≤ e) :
    readBack (UnpackedFloat.round Format.binary64 s m e) ≠ .zero s' := by
  obtain ⟨m', e', h, heq, hlt, hle⟩ := exists_round_eq s hm he
  rw [heq]
  exact readBack_finite_ne_zero h hlt hle

/-! ## Differences -/

/-- Of two numbers that are equal as ratios none has the larger exponent: its mantissa would have to have
more than 53 digits. -/
theorem InRange.exponent_le_of_scaled_eq {m m' : Nat} {e e' : Int} (h : InRange m e) (h' : InRange m' e')
    (heq : m * 2 ^ (e - min e e').toNat = m' * 2 ^ (e' - min e e').toNat) : e' ≤ e := by
  by_contra hlt
  have hzero : (e - min e e').toNat = 0 := by omega
  obtain ⟨k, hk⟩ : ∃ k, (e' - min e e').toNat = k + 1 := ⟨(e' - e - 1).toNat, by omega⟩
  have hle := h.le
  have hfull : 2 ^ 52 ≤ m' := h'.full.resolve_left (by omega)
  have hone : 1 ≤ 2 ^ k := Nat.one_le_two_pow
  rw [hzero, hk, pow_zero, mul_one, pow_succ] at heq
  have hbig : 2 ^ 53 ≤ m' * (2 ^ k * 2) := by nlinarith
  exact Nat.lt_irrefl _ (h.lt.trans_le (heq ▸ hbig))

/-- Two numbers of one sign that are equal as ratios are stored with one mantissa and one exponent. -/
theorem InRange.eq_of_scaled_eq {m m' : Nat} {e e' : Int} (h : InRange m e) (h' : InRange m' e')
    (heq : m * 2 ^ (e - min e e').toNat = m' * 2 ^ (e' - min e e').toNat) : m = m' ∧ e = e' := by
  have hswapped : m' * 2 ^ (e' - min e' e).toNat = m * 2 ^ (e - min e' e).toNat := by
    rw [min_comm, heq]
  obtain rfl : e = e' :=
    Int.le_antisymm (h'.exponent_le_of_scaled_eq h hswapped) (h.exponent_le_of_scaled_eq h' heq)
  simpa using heq

/-- Numbers of which the signed mantissas at a common exponent are equal are equal. -/
theorem beq_of_scaled_eq {s s' : Sign} {m m' : Nat} {e e' : Int} {hm : 0 < m} {hm' : 0 < m'}
    (h : InRange m e) (h' : InRange m' e')
    (heq : s.apply (m * 2 ^ (e - min e e').toNat : Nat) = s'.apply (m' * 2 ^ (e' - min e e').toNat : Nat)) :
    (UnpackedFloat.finite s m e hm).beq (.finite s' m' e' hm') = true := by
  have hpos : ∀ n k : Nat, 0 < n → 0 < n * 2 ^ k := fun n k hn => Nat.mul_pos hn (Nat.two_pow_pos k)
  have hleft := hpos m (e - min e e').toNat hm
  have hright := hpos m' (e' - min e e').toNat hm'
  cases s <;> cases s' <;> simp only [Sign.apply] at heq
  case negative.positive => omega
  case positive.negative => omega
  all_goals
    obtain ⟨rfl, rfl⟩ := h.eq_of_scaled_eq h' (by omega)
    simp [UnpackedFloat.beq, UnpackedFloat.compare]

/-- The difference of two floating-point numbers is zero only if they are equal: what is left of two
numbers is rounded, but not to zero. -/
theorem beq_of_readBack_sub_eq_zero {b b' : BitVec Format.binary64.numBits} {s : Sign}
    (h : readBack (UnpackedFloat.sub Format.binary64 (UnpackedFloat.unpack Format.binary64 b)
      (UnpackedFloat.unpack Format.binary64 b')) = .zero s) :
    (UnpackedFloat.unpack Format.binary64 b).beq (UnpackedFloat.unpack Format.binary64 b') = true := by
  have hb := @inRange_of_unpack b
  have hb' := @inRange_of_unpack b'
  generalize UnpackedFloat.unpack Format.binary64 b = x at *
  generalize UnpackedFloat.unpack Format.binary64 b' = y at *
  cases x <;> cases y <;> simp only [UnpackedFloat.sub] at h
  case notANumber.notANumber | notANumber.infinity | notANumber.zero | notANumber.finite
      | infinity.notANumber | zero.notANumber | finite.notANumber =>
    exact absurd h (readBack_notANumber_ne_zero s)
  case infinity.zero | infinity.finite | zero.infinity | finite.infinity =>
    exact absurd h (readBack_infinity_ne_zero _ s)
  case infinity.infinity =>
    split at h
    · exact absurd h (readBack_infinity_ne_zero _ s)
    · exact absurd h (readBack_notANumber_ne_zero s)
  case zero.zero => rfl
  case zero.finite m e hm =>
    have hin := hb' rfl
    exact absurd h (readBack_finite_ne_zero hm hin.lt hin.le)
  case finite.zero m e hm _ =>
    have hin := hb rfl
    exact absurd h (readBack_finite_ne_zero hm hin.lt hin.le)
  case finite.finite sx m e hm sy m' e' hm' =>
    have hx := hb rfl
    have hy := hb' rfl
    have hexponent : -1074 ≤ min e e' := le_min hx.le hy.le
    simp only [decreaseExponent, Nat.shiftLeft_eq] at h
    unfold UnpackedFloat.normalize at h
    split at h
    next hcompare =>
      rw [Int.compare_eq_lt] at hcompare
      exact absurd h (readBack_round_ne_zero _ s (by omega) hexponent)
    next hcompare =>
      rw [Int.compare_eq_eq] at hcompare
      exact beq_of_scaled_eq hx hy (Int.eq_of_sub_eq_zero hcompare)
    next hcompare =>
      rw [Int.compare_eq_gt] at hcompare
      exact absurd h (readBack_round_ne_zero _ s (by omega) hexponent)

theorem eq_zero_of_beq_zero {x : Float} (h : (x == 0) = true) :
    ∃ s, x.toModel.unpack = .zero s := by
  have hcompare : (x.toModel.unpack).beq (.zero .positive) = true := h
  match hx : x.toModel.unpack with
  | .zero s => exact ⟨s, rfl⟩
  | .notANumber | .infinity .positive | .infinity .negative | .finite .positive .. | .finite .negative .. =>
    rw [hx] at hcompare
    simp [UnpackedFloat.beq, UnpackedFloat.compare] at hcompare

/-- The difference of two floating-point numbers that are not equal is not zero. -/
theorem sub_ne_zero_of_ne {x y : Float} (h : (x == y) = false) : (x - y == 0) = false := by
  by_contra hzero
  obtain ⟨s, hs⟩ := eq_zero_of_beq_zero (Bool.eq_true_of_not_eq_false hzero)
  have heq : (x == y) = true := beq_of_readBack_sub_eq_zero hs
  simp [h] at heq

end ShaderRecords.Binary64

/-
ShaderRecords.Proofs.Number.Representable — numbers that a format holds are rounded to themselves.

A format of floating-point numbers holds `q * 2 ^ e` for the mantissas and exponents that `Fits` tells apart, and
rounding a ratio begins with the exponent in whose units it has all its digits. Both formats find that
exponent in the same way (`unitOf`), and it is the binary logarithm of the ratio (`unitOf_eq`). So a ratio that is
`q * 2 ^ e` is given the exponent `e`, it has `q` units of it, and no digit is left to be rounded
(`Fits.unitOf_eq`, `Fits.roundHalfEven_eq`).

What follows for the two formats: a ratio that double precision holds is stored as it is
(`Binary64.ofFloat_nearest`), stored numbers without a sign are ordered as the ratios they stand for
(`Binary64.not_lt_of_le`), and a half-precision pattern is found again from the number it stands for
(`Binary16.ofBinary64_toFloat`).
-/
import Mathlib
import ShaderRecords.Number.Binary16
import ShaderRecords.Proofs.Number.Product

namespace ShaderRecords

/-! ## Ratios in units of a power of two -/

section Units

variable {digits num den q : Nat} {least e : Int}

theorem two_zpow_eq (e : Int) : (2 : ℚ) ^ e = 2 ^ e.toNat / 2 ^ (-e).toNat := by
  conv_lhs => rw [show e = (e.toNat : Int) - (-e).toNat by omega]
  rw [zpow_sub₀ two_ne_zero, zpow_natCast, zpow_natCast]

/-- A ratio is compared with a multiple of a power of two without division. -/
theorem scaled_lt_iff (hden : 0 < den) (q : Nat) (e : Int) :
    num * 2 ^ (-e).toNat < q * den * 2 ^ e.toNat ↔ (num / den : ℚ) < q * 2 ^ e := by
  have hden' : (0 : ℚ) < den := Nat.cast_pos.mpr hden
  rw [two_zpow_eq, ← mul_div_assoc, div_lt_div_iff₀ hden' (by positivity), mul_right_comm]
  exact_mod_cast Iff.rfl

theorem scaled_eq_iff (hden : 0 < den) (q : Nat) (e : Int) :
    num * 2 ^ (-e).toNat = q * (den * 2 ^ e.toNat) ↔ (num / den : ℚ) = q * 2 ^ e := by
  have hden' : (den : ℚ) ≠ 0 := Nat.cast_ne_zero.mpr (Nat.ne_of_gt hden)
  rw [two_zpow_eq, ← mul_div_assoc, div_eq_div_iff hden' (by positivity), mul_comm den, ← mul_assoc]
  exact_mod_cast Iff.rfl

/-- A ratio of some value has something above its line. -/
theorem num_pos_of_value (hq : 0 < q) (hvalue : (num / den : ℚ) = q * 2 ^ e) : 0 < num := by
  have hpos : (0 : ℚ) < q * 2 ^ e := by positivity
  rw [← hvalue] at hpos
  exact Nat.pos_of_ne_zero fun hzero => by simp [hzero] at hpos

/-- A ratio of no value has nothing above its line. -/
theorem eq_zero_of_value (hden : 0 < den) (hvalue : (num / den : ℚ) = (0 : Nat) * 2 ^ e) : num = 0 := by
  have hden' : (den : ℚ) ≠ 0 := Nat.cast_ne_zero.mpr (Nat.ne_of_gt hden)
  simpa [hden'] using hvalue

/-- The power of two in whose units a ratio has one more binary digit than `digits`, but never below
`least`. -/
def unitOf (digits : Nat) (least : Int) (num den : Nat) : Int :=
  let e : Int := (Nat.log2 num : Int) - (Nat.log2 den : Int) - digits
  let e := if num * 2 ^ (-e).toNat < 2 ^ digits * den * 2 ^ e.toNat then e - 1 else e
  max e least

theorem Binary64.unitExponent_eq (num den : Nat) :
    Binary64.unitExponent num den = unitOf 52 (-1074) num den := rfl

theorem Binary16.unitExponent_eq (num den : Nat) :
    Binary16.unitExponent num den = unitOf 10 (-24) num den := rfl

/-- The logarithm of a ratio is the difference of those of its parts, or one less. -/
theorem log_ratio_mem (hnum : 0 < num) (hden : 0 < den) :
    (Nat.log2 num : Int) - Nat.log2 den - 1 ≤ Int.log 2 (num / den : ℚ)
      ∧ Int.log 2 (num / den : ℚ) ≤ (Nat.log2 num : Int) - Nat.log2 den := by
  have hnum' : (0 : ℚ) < num := Nat.cast_pos.mpr hnum
  have hden' : (0 : ℚ) < den := Nat.cast_pos.mpr hden
  have hpos : (0 : ℚ) < num / den := div_pos hnum' hden'
  have hnumLow : (2 : ℚ) ^ (Nat.log2 num : Int) ≤ num := by
    exact_mod_cast Nat.log2_self_le (Nat.ne_of_gt hnum)
  have hnumHigh : (num : ℚ) < 2 ^ ((Nat.log2 num : Int) + 1) := by exact_mod_cast Nat.lt_log2_self
  have hdenLow : (2 : ℚ) ^ (Nat.log2 den : Int) ≤ den := by
    exact_mod_cast Nat.log2_self_le (Nat.ne_of_gt hden)
  have hdenHigh : (den : ℚ) < 2 ^ ((Nat.log2 den : Int) + 1) := by exact_mod_cast Nat.lt_log2_self
  constructor
  · rw [← Int.zpow_le_iff_le_log (by decide) hpos, sub_sub, Nat.cast_ofNat, zpow_sub₀ two_ne_zero]
    exact div_le_div₀ hnum'.le hnumLow hden' hdenHigh.le
  · rw [← Int.lt_add_one_iff, ← Int.lt_zpow_iff_log_lt (by decide) hpos, sub_add_eq_add_sub,
      Nat.cast_ofNat, zpow_sub₀ two_ne_zero]
    exact div_lt_div₀ hnumHigh hdenLow (by positivity) (by positivity)

/-- The unit of a ratio is its logarithm, moved by the number of digits. -/
theorem unitOf_eq (digits : Nat) (least : Int) (hnum : 0 < num) (hden : 0 < den) :
    unitOf digits least num den = max (Int.log 2 (num / den : ℚ) - digits) least := by
  have hpos : (0 : ℚ) < num / den := div_pos (Nat.cast_pos.mpr hnum) (Nat.cast_pos.mpr hden)
  obtain ⟨hlow, hhigh⟩ := log_ratio_mem hnum hden
  -- The test asks whether the logarithm is the smaller one of the two that are possible.
  have htest : num * 2 ^ (-((Nat.log2 num : Int) - Nat.log2 den - digits)).toNat
        < 2 ^ digits * den * 2 ^ ((Nat.log2 num : Int) - Nat.log2 den - digits).toNat
      ↔ Int.log 2 (num / den : ℚ) < (Nat.log2 num : Int) - Nat.log2 den := by
    rw [scaled_lt_iff hden, ← Int.lt_zpow_iff_log_lt (by decide) hpos, Nat.cast_pow, Nat.cast_ofNat,
      ← zpow_natCast, ← zpow_add₀ two_ne_zero, add_sub_cancel]
  unfold unitOf
  simp only [htest]
  split <;> congr 1 <;> omega

/-! ## Mantissas and exponents of a format -/

/-- Whether a format whose numbers have one more binary digit than `digits` and no exponent below `least` holds
a mantissa and an exponent: only the numbers of the least exponent have fewer digits. -/
structure Fits (digits : Nat) (least : Int) (q : Nat) (e : Int) : Prop where
  lt : q < 2 ^ (digits + 1)
  le : least ≤ e
  full : e = least ∨ 2 ^ digits ≤ q

theorem Fits.unitOf_eq (h : Fits digits least q e) (hq : 0 < q) (hden : 0 < den)
    (hvalue : (num / den : ℚ) = q * 2 ^ e) : unitOf digits least num den = e := by
  have hpos : (0 : ℚ) < q * 2 ^ e := by positivity
  have hnum : 0 < num := num_pos_of_value hq hvalue
  have hhigh : Int.log 2 ((q : ℚ) * 2 ^ e) < digits + 1 + e := by
    rw [← Int.lt_zpow_iff_log_lt (by decide) hpos, Nat.cast_ofNat, zpow_add₀ two_ne_zero]
    have hlt : (q : ℚ) < 2 ^ ((digits : Int) + 1) := by exact_mod_cast h.lt
    exact mul_lt_mul_of_pos_right hlt (by positivity)
  have hlow : 2 ^ digits ≤ q → digits + e ≤ Int.log 2 ((q : ℚ) * 2 ^ e) := by
    intro hfull
    rw [← Int.zpow_le_iff_le_log (by decide) hpos, Nat.cast_ofNat, zpow_add₀ two_ne_zero]
    have hle : (2 : ℚ) ^ (digits : Int) ≤ q := by exact_mod_cast hfull
    exact mul_le_mul_of_nonneg_right hle (by positivity)
  have hle := h.le
  rw [ShaderRecords.unitOf_eq digits least hnum hden, hvalue]
  rcases h.full with rfl | hfull
  · omega
  · have hexponent := hlow hfull
    omega

theorem roundHalfEven_mul (q : Nat) {d : Nat} (hd : 0 < d) : Binary64.roundHalfEven (q * d) d = q := by
  simp [Binary64.roundHalfEven, Nat.mul_div_cancel q hd, hd]

/-- A ratio that is a whole number of units is not rounded. -/
theorem roundHalfEven_of_value (hden : 0 < den) (hvalue : (num / den : ℚ) = q * 2 ^ e) :
    Binary64.roundHalfEven (num * 2 ^ (-e).toNat) (den * 2 ^ e.toNat) = q := by
  rw [(scaled_eq_iff hden q e).mpr hvalue]
  exact roundHalfEven_mul q (Nat.mul_pos hden (Nat.two_pow_pos _))

end Units

/-! ## Double precision -/

namespace Binary64

open Float.Model Float.Model.UnpackedFloat

section Storing

variable {num den q : Nat} {e : Int}

theorem InRange.fits {m : Nat} (h : InRange m e) : Fits 52 (-1074) m e :=
  ⟨h.lt, h.le, h.full⟩

/-- The bits of a ratio that double precision holds. -/
theorem nearestBits_eq (h : InRange q e) (htop : e ≤ 971) (hden : 0 < den)
    (hvalue : (num / den : ℚ) = q * 2 ^ e) :
    nearestBits num den = if q < 2 ^ 52 then q else (e + 1075).toNat * 2 ^ 52 + (q - 2 ^ 52) := by
  have hlt := h.lt
  rcases Nat.eq_zero_or_pos q with rfl | hq
  · rw [eq_zero_of_value hden hvalue]
    rfl
  · have hnum : num ≠ 0 := Nat.ne_of_gt (num_pos_of_value hq hvalue)
    rw [nearestBits, if_neg hnum, unitExponent_eq, h.fits.unitOf_eq hq hden hvalue]
    dsimp only
    rw [roundHalfEven_of_value hden hvalue]
    split
    · rfl
    · exact Nat.min_eq_left (by omega)

/-- What has few digits can be given all that double precision holds. -/
theorem exists_inRange (hq : q < 2 ^ 53) (he : -1022 ≤ e) :
    ∃ m e', InRange m e' ∧ e' ≤ e ∧ (m : ℚ) * 2 ^ e' = q * 2 ^ e := by
  rcases Nat.eq_zero_or_pos q with rfl | hpos
  · exact ⟨0, -1074, ⟨by decide, by decide, Or.inl rfl⟩, by omega, by simp⟩
  · have hlog : q.log2 < 53 := (Nat.log2_lt (Nat.ne_of_gt hpos)).mpr hq
    have hlow := Nat.log2_self_le (Nat.ne_of_gt hpos)
    have hhigh : q < 2 ^ (q.log2 + 1) := Nat.lt_log2_self
    obtain ⟨d, hd⟩ : ∃ d, q.log2 + d = 52 := ⟨52 - q.log2, by omega⟩
    refine ⟨q * 2 ^ d, e - d, ⟨?_, by omega, Or.inr ?_⟩, by omega, ?_⟩
    · calc q * 2 ^ d < 2 ^ (q.log2 + 1) * 2 ^ d := Nat.mul_lt_mul_of_pos_right hhigh (Nat.two_pow_pos d)
        _ = 2 ^ 53 := by rw [← Nat.pow_add, Nat.add_right_comm, hd]
    · calc 2 ^ 52 = 2 ^ q.log2 * 2 ^ d := by rw [← Nat.pow_add, hd]
        _ ≤ q * 2 ^ d := Nat.mul_le_mul_right _ hlow
    · rw [zpow_sub₀ two_ne_zero, zpow_natCast]
      push_cast
      field_simp

/-- What was unpacked is read back as it is when it is packed again. -/
theorem ofUnpacked_readBack_unpack (b : BitVec Format.binary64.numBits) :
    ofUnpacked (readBack (UnpackedFloat.unpack Format.binary64 b))
      = ofUnpacked (UnpackedFloat.unpack Format.binary64 b) := by
  have hparts := ofUnpacked_unpack b
  match hb : UnpackedFloat.unpack Format.binary64 b with
  | .notANumber => decide
  | .infinity s | .zero s => cases s <;> decide
  | .finite s m e h =>
    have hrange := inRange_of_unpack hb
    have htop : e ≤ 971 := by
      rw [hb, ofUnpacked] at hparts
      split at hparts
      · split at hparts <;> simp at hparts
      · split at hparts
        · have hleast := (Binary64.finite.inj hparts).2.2
          omega
        · have hfield := (Binary64.finite.inj hparts).2.2
          omega
    rw [readBack_finite h hrange.lt hrange.le htop, ofUnpacked]
    congr 1
    rcases hrange.full with rfl | hfull
    · simp
    · rw [if_neg (Nat.not_lt.mpr hfull)]

/-- What bits stand for. -/
theorem ofFloat_ofBits (b : UInt64) :
    ofFloat (Float.ofBits b) = ofUnpacked (UnpackedFloat.unpack Format.binary64 b.toBitVec) := by
  rw [ofFloat_eq]
  exact ofUnpacked_readBack_unpack b.toBitVec

/-- What a sign and the bits below it stand for, where those are no infinity: the sign stands above the eleven
bits of the exponent, and those stand above the bits of the mantissa. -/
theorem ofFloat_signed (negative : Bool) {k : Nat} (hk : k < 2047 * 2 ^ 52) :
    ofFloat (Float.ofBits (UInt64.ofNat ((if negative then 2 ^ 63 else 0) + k)))
      = if k / 2 ^ 52 = 0 then .finite negative (k % 2 ^ 52) (-1074)
        else .finite negative (2 ^ 52 + k % 2 ^ 52) ((k / 2 ^ 52 : Nat) - 1075) := by
  have hbits : (UInt64.ofNat ((if negative then 2 ^ 63 else 0) + k)).toBitVec.toNat
      = (if negative then 2 ^ 63 else 0) + k := Nat.mod_eq_of_lt (by split <;> omega)
  have hfield : ((if negative then 2 ^ 63 else 0) + k) / 2 ^ 52 % 2 ^ 11 = k / 2 ^ 52 := by
    split <;> omega
  have hrest : ((if negative then 2 ^ 63 else 0) + k) % 2 ^ 52 = k % 2 ^ 52 := by
    split <;> omega
  have hminus : decide (2 ^ 63 ≤ (if negative then 2 ^ 63 else 0) + k) = negative := by
    cases negative with
    | false => exact decide_eq_false (by simp; omega)
    | true => exact decide_eq_true (by simp)
  rw [ofFloat_ofBits, ofUnpacked_unpack, hbits, hfield, hrest, hminus, if_neg (by omega)]

/-- A ratio that double precision holds is stored as it is. -/
theorem ofFloat_nearest (negative : Bool) (h : InRange q e) (htop : e ≤ 971) (hden : 0 < den)
    (hvalue : (num / den : ℚ) = q * 2 ^ e) : ofFloat (nearest negative num den) = .finite negative q e := by
  have hlt := h.lt
  have hle := h.le
  rw [nearest, nearestBits_eq h htop hden hvalue]
  by_cases hsmall : q < 2 ^ 52
  · obtain rfl : e = -1074 := h.full.resolve_right (by omega)
    rw [if_pos hsmall, ofFloat_signed negative (by omega), if_pos (by omega), Nat.mod_eq_of_lt hsmall]
  · obtain ⟨field, hexponent⟩ : ∃ field : Nat, (e + 1075).toNat = field := ⟨_, rfl⟩
    have hstored : 1 ≤ field ∧ field ≤ 2046 := by omega
    have hfield : (field * 2 ^ 52 + (q - 2 ^ 52)) / 2 ^ 52 = field := by omega
    have hrest : (field * 2 ^ 52 + (q - 2 ^ 52)) % 2 ^ 52 = q - 2 ^ 52 := by omega
    have hplace : (field : Int) - 1075 = e := by omega
    rw [if_neg hsmall, hexponent, ofFloat_signed negative (by omega), hfield, hrest, if_neg (by omega),
      Nat.add_sub_cancel' (Nat.not_lt.mp hsmall), hplace]

end Storing

/-! ### Order -/

section Order

variable {x y : Float} {m m' : Nat} {e e' : Int}

theorem inRange_of_ofFloat (hm : 0 < m) (hx : ofFloat x = .finite false m e) :
    InRange m e ∧ ∃ h, x.toModel.unpack = .finite .positive m e h := by
  rw [ofFloat_eq] at hx
  obtain ⟨h, hunpack⟩ := exists_eq_finite_of_ofUnpacked hm hx
  exact ⟨inRange_of_unpack (b := x.toModel.toBits.toBitVec) hunpack, h, hunpack⟩

/-- Of two numbers with all their digits the one of the smaller exponent is the smaller one. -/
theorem InRange.exponent_le_of_value_le (h : InRange m e) (h' : InRange m' e')
    (hle : (m : ℚ) * 2 ^ e ≤ m' * 2 ^ e') : e ≤ e' := by
  by_contra hlt
  have hfull : 2 ^ 52 ≤ m := h.full.resolve_left fun heq => by
    have hleast := h'.le
    omega
  have hstep : (2 : ℚ) ^ (e' + 1) ≤ 2 ^ e := zpow_le_zpow_right₀ one_le_two (by omega)
  have hlarge : (2 : ℚ) ^ 52 ≤ m := by exact_mod_cast hfull
  have hsmall : (m' : ℚ) < 2 ^ 53 := by exact_mod_cast h'.lt
  have hpos : (0 : ℚ) < 2 ^ e' := by positivity
  rw [zpow_add_one₀ two_ne_zero] at hstep
  have hscaled : (2 : ℚ) ^ 52 * (2 ^ e' * 2) ≤ m * 2 ^ e := mul_le_mul hlarge hstep (by positivity) (by positivity)
  nlinarith

/-- A number without a sign is not below another one whose value is not above its own. -/
theorem not_lt_of_le (hx : ofFloat x = .finite false m e) (hy : ofFloat y = .finite false m' e')
    (hle : (m : ℚ) * 2 ^ e ≤ m' * 2 ^ e') : ¬y < x := by
  rw [lt_iff]
  rcases Nat.eq_zero_or_pos m with rfl | hm
  · rw [ofFloat_eq] at hx hy
    match hux : x.toModel.unpack, huy : y.toModel.unpack with
    | .zero _, .zero _ | .zero _, .finite .positive .. =>
      simp [UnpackedFloat.lt, UnpackedFloat.compare]
    | .zero _, .finite .negative .. | .zero _, .infinity _ | .zero _, .notANumber =>
      simp [huy, ofUnpacked, isMinus] at hy
    | .finite _ _ _ h, _ =>
      simp [hux, ofUnpacked, Nat.ne_of_gt h] at hx
    | .infinity _, _ | .notANumber, _ => simp [hux, ofUnpacked] at hx
  · have hm' : 0 < m' := by
      have hpos : (0 : ℚ) < m' * 2 ^ e' := lt_of_lt_of_le (by positivity) hle
      exact Nat.pos_of_ne_zero fun hzero => by simp [hzero] at hpos
    obtain ⟨hrange, _, hux⟩ := inRange_of_ofFloat hm hx
    obtain ⟨hrange', _, huy⟩ := inRange_of_ofFloat hm' hy
    have hexponent := hrange.exponent_le_of_value_le hrange' hle
    rw [hux, huy, UnpackedFloat.lt, UnpackedFloat.compare]
    rcases Int.lt_or_eq_of_le hexponent with hlt | rfl
    · simp [Int.compare_eq_gt.mpr hlt]
    · have hmantissa : m ≤ m' := by
        exact_mod_cast le_of_mul_le_mul_right hle (by positivity : (0 : ℚ) < 2 ^ e)
      rcases Nat.lt_or_eq_of_le hmantissa with hlt | rfl
      · simp [Nat.compare_eq_gt.mpr hlt]
      · simp

end Order

end Binary64

/-! ## Half precision -/

namespace Binary16

variable {p num den : Nat} {q : Nat} {e : Int}

/-- The mantissa of a pattern. -/
def mantissa (p : Nat) : Nat :=
  if p / 2 ^ 10 % 2 ^ 5 = 0 then p % 2 ^ 10 else 2 ^ 10 + p % 2 ^ 10

/-- The exponent of a pattern. -/
def exponent (p : Nat) : Int :=
  if p / 2 ^ 10 % 2 ^ 5 = 0 then -24 else (p / 2 ^ 10 % 2 ^ 5 : Nat) - 25

theorem fits (p : Nat) : Fits 10 (-24) (mantissa p) (exponent p) := by
  unfold mantissa exponent
  split
  · exact ⟨by omega, by omega, Or.inl rfl⟩
  · exact ⟨by omega, by omega, Or.inr (by omega)⟩

/-- The pattern of a ratio that half precision holds. -/
theorem ofRatio_eq (h : Fits 10 (-24) q e) (hden : 0 < den) (hvalue : (num / den : ℚ) = q * 2 ^ e) :
    ofRatio num den
      = if q < 2 ^ 10 then q else min ((e + 25).toNat * 2 ^ 10 + (q - 2 ^ 10)) (31 * 2 ^ 10) := by
  rcases Nat.eq_zero_or_pos q with rfl | hq
  · rw [eq_zero_of_value hden hvalue]
    rfl
  · have hnum : num ≠ 0 := Nat.ne_of_gt (num_pos_of_value hq hvalue)
    rw [ofRatio, if_neg hnum, unitExponent_eq, h.unitOf_eq hq hden hvalue]
    dsimp only
    rw [roundHalfEven_of_value hden hvalue]

/-- A pattern is found again from a ratio of its value. -/
theorem ofRatio_mantissa (hp : p < 31 * 2 ^ 10) (hden : 0 < den)
    (hvalue : (num / den : ℚ) = mantissa p * 2 ^ exponent p) : ofRatio num den = p := by
  rw [ofRatio_eq (fits p) hden hvalue]
  unfold mantissa exponent
  split <;> split <;> omega

/-- The number that a pattern stands for is stored with the value of the pattern. -/
theorem exists_ofFloat_toFloat (hp : p < 31 * 2 ^ 10) :
    ∃ m e, Binary64.ofFloat (toFloat p) = .finite false m e
      ∧ (m : ℚ) * 2 ^ e = mantissa p * 2 ^ exponent p := by
  have hfits := fits p
  obtain ⟨m, e, hrange, hle, hvalue⟩ := Binary64.exists_inRange (q := mantissa p) (e := exponent p)
    (hfits.lt.trans (by decide)) (by have := hfits.le; omega)
  have htop : e ≤ 971 := by
    have hexponent : exponent p ≤ 6 := by
      unfold exponent
      split <;> omega
    omega
  refine ⟨m, e, ?_, hvalue⟩
  have hfield : p / 2 ^ 10 % 2 ^ 5 ≠ 31 := by omega
  unfold mantissa exponent at hvalue
  rw [toFloat, if_neg hfield]
  split
  next hleast =>
    rw [if_pos hleast, if_pos hleast] at hvalue
    refine Binary64.ofFloat_nearest false hrange htop (Nat.two_pow_pos _) ?_
    rw [hvalue, div_eq_mul_inv, zpow_neg]
    norm_cast
  next hmore =>
    rw [if_neg hmore, if_neg hmore] at hvalue
    refine Binary64.ofFloat_nearest false hrange htop (Nat.two_pow_pos _) ?_
    rw [hvalue, zpow_sub₀ two_ne_zero, zpow_natCast]
    push_cast
    ring

/-- A pattern is found again from the number it stands for. -/
theorem ofBinary64_toFloat (hp : p < 31 * 2 ^ 10) : ofBinary64 (Binary64.ofFloat (toFloat p)) = p := by
  obtain ⟨m, e, hfloat, hvalue⟩ := exists_ofFloat_toFloat hp
  rw [hfloat, ofBinary64]
  refine ofRatio_mantissa hp (Nat.two_pow_pos _) ?_
  rw [← hvalue, two_zpow_eq, ← mul_div_assoc]
  push_cast
  rfl

end Binary16

end ShaderRecords

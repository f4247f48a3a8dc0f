/-
ShaderRecords.Proofs.Storage.SmallFloat — three small numbers in one word.

A code is the upper part of a half-precision pattern, so it is a pattern again once zeros are put below it, and
half precision finds that pattern again from its number (`Binary16.ofBinary64_toFloat`). The numbers of codes lie
between zero and the largest number, where nothing is moved to an end. Hence encoding undoes decoding
(`SmallFloat.encode_decode`), unless all bits of the exponent are ones.

Whatever is encoded, its code has the bits of its channel (`SmallFloat.encode_lt`). So the three codes of a word
stand side by side, and joining them adds them up (`SmallFloat.pack_eq`).
-/
import ShaderRecords.Proofs.Number.Bits
import ShaderRecords.Proofs.Number.Representable
import ShaderRecords.Storage.SmallFloat

namespace ShaderRecords

/-! ## Patterns -/

theorem Binary16.ofRatio_le (num den : Nat) : ofRatio num den ≤ 31 * 2 ^ 10 := by
  unfold ofRatio
  split
  · exact Nat.zero_le _
  · dsimp only
    split
    · omega
    · exact Nat.min_le_right _ _

/-- A pattern without a sign has fifteen bits. -/
theorem Binary16.ofBinary64_lt (x : Binary64) : ofBinary64 x < 2 ^ 15 := by
  cases x with
  | nan => decide
  | infinite negative => exact (by decide : 31 * 2 ^ 10 < 2 ^ 15)
  | finite negative m e => exact Nat.lt_of_le_of_lt (ofRatio_le _ _) (by decide)

namespace SmallFloat

variable {drop code : Nat}

/-! ## One channel -/

/-- A code has the bits that are left of a pattern. -/
theorem encode_lt (hdrop : drop ≤ 15) (x : Number) : encode drop x < 2 ^ (15 - drop) := by
  refine Nat.div_lt_of_lt_mul ?_
  rw [← Nat.pow_add, Nat.add_sub_cancel' hdrop]
  exact Binary16.ofBinary64_lt _

/-- Neither end of what is stored moves the number of a pattern. -/
theorem clamp_toFloat {p : Nat} (hp : p < 31 * 2 ^ 10) :
    Arithmetic.smaller (Arithmetic.larger (.float (Binary16.toFloat p)) Arithmetic.zero) largest
      = .float (Binary16.toFloat p) := by
  obtain ⟨m, e, hfloat, hvalue⟩ := Binary16.exists_ofFloat_toFloat hp
  have hzero : Binary64.ofFloat 0 = .finite false 0 (-1074) := by decide
  have hlargest : Binary64.ofFloat 65504 = .finite false (2047 * 2 ^ 42) (-37) := by decide
  have hlow : ¬Binary16.toFloat p < 0 := by
    refine Binary64.not_lt_of_le hzero hfloat ?_
    rw [Nat.cast_zero, zero_mul]
    positivity
  have hhigh : ¬(65504 : Float) < Binary16.toFloat p := by
    refine Binary64.not_lt_of_le hfloat hlargest ?_
    have hmantissa : (Binary16.mantissa p : ℚ) ≤ 2047 := by
      have hlt := (Binary16.fits p).lt
      exact_mod_cast Nat.le_of_lt_succ hlt
    have hexponent : Binary16.exponent p ≤ 5 := by
      unfold Binary16.exponent
      split <;> omega
    calc (m : ℚ) * 2 ^ e = Binary16.mantissa p * 2 ^ Binary16.exponent p := hvalue
      _ ≤ 2047 * 2 ^ (5 : Int) :=
        mul_le_mul hmantissa (zpow_le_zpow_right₀ one_le_two hexponent) (by positivity) (by norm_num)
      _ = (2047 * 2 ^ 42 : Nat) * 2 ^ (-37 : Int) := by norm_num
  have hlarger : Arithmetic.larger (Number.float (Binary16.toFloat p)) Arithmetic.zero
      = .float (Binary16.toFloat p) := if_neg fun h => hlow (of_decide_eq_true h)
  rw [hlarger]
  exact if_neg fun h => hhigh (of_decide_eq_true h)

/-- A code is found again from the number it stands for, unless its exponent has only ones. -/
theorem encode_decode (hdrop : drop ≤ 10) (hcode : code < 31 * 2 ^ (10 - drop)) :
    encode drop (.float (decode drop code)) = code := by
  have hpattern : code * 2 ^ drop < 31 * 2 ^ 10 := by
    calc code * 2 ^ drop < 31 * 2 ^ (10 - drop) * 2 ^ drop :=
          Nat.mul_lt_mul_of_pos_right hcode (Nat.two_pow_pos drop)
      _ = 31 * 2 ^ 10 := by rw [Nat.mul_assoc, ← Nat.pow_add, Nat.sub_add_cancel hdrop]
  have hfloat : decode drop code = Binary16.toFloat (code * 2 ^ drop) :=
    congrArg Binary16.toFloat (Nat.mod_eq_of_lt (hpattern.trans (by decide)))
  rw [hfloat, encode, clamp_toFloat hpattern]
  dsimp only
  rw [Binary16.ofBinary64_toFloat hpattern]
  exact Nat.mul_div_cancel code (Nat.two_pow_pos drop)

theorem upper_lt (x : Number) : encode 4 x < 2 ^ 11 := encode_lt (by decide) x

theorem lower_lt (x : Number) : encode 5 x < 2 ^ 10 := encode_lt (by decide) x

/-! ## The word -/

/-- Three codes are joined by adding them up, if the lower two have the bits of their channels. -/
theorem join_eq {r g b : Nat} (hg : g < 2 ^ 11) (hb : b < 2 ^ 10) :
    r * 2 ^ 21 ||| g * 2 ^ 10 ||| b = r * 2 ^ 21 + g * 2 ^ 10 + b := by
  have hupper : r * 2 ^ 21 ||| g * 2 ^ 10 = r * 2 ^ 21 + g * 2 ^ 10 := by
    rw [Nat.mul_comm r]
    exact (Nat.two_pow_add_eq_or_of_lt (by omega) r).symm
  have hlower : r * 2 ^ 21 + g * 2 ^ 10 = 2 ^ 10 * (2 ^ 11 * r + g) := by omega
  rw [hupper, hlower]
  exact (Nat.two_pow_add_eq_or_of_lt hb _).symm

/-- A packed word is the sum of its channels. -/
theorem pack_eq (r g b : Number) :
    pack r g b = encode 4 r * 2 ^ 21 + encode 4 g * 2 ^ 10 + encode 5 b :=
  join_eq (upper_lt g) (lower_lt b)

theorem pack_lt (r g b : Number) : pack r g b < 2 ^ 32 := by
  have hr := upper_lt r
  have hg := upper_lt g
  have hb := lower_lt b
  rw [pack_eq]
  omega

/-- Each channel of a packed word holds the code of its own number. -/
theorem channels_pack (r g b : Number) :
    bitsAt (pack r g b) 21 11 = encode 4 r ∧ bitsAt (pack r g b) 10 11 = encode 4 g
      ∧ bitsAt (pack r g b) 0 10 = encode 5 b := by
  have hr := upper_lt r
  have hg := upper_lt g
  have hb := lower_lt b
  rw [bitsAt_natCast, bitsAt_natCast, bitsAt_natCast, pack_eq]
  omega

/-- The channels of any whole number make up its low 32 bits. -/
theorem sum_channels (w : Int) :
    bitsAt w 21 11 * 2 ^ 21 + bitsAt w 10 11 * 2 ^ 10 + bitsAt w 0 10 = wordOf w := by
  unfold wordOf bitsAt
  rw [shiftDown_eq, shiftDown_eq, shiftDown_eq]
  omega

/-- Whether the channels of a number hold numbers: an exponent with only ones is that of an infinity or of what is
no number. -/
structure HoldsNumbers (w : Int) : Prop where
  first : bitsAt w 21 11 / 2 ^ 6 ≠ 31
  second : bitsAt w 10 11 / 2 ^ 6 ≠ 31
  third : bitsAt w 0 10 / 2 ^ 5 ≠ 31

/-- A word of numbers is found again from its three numbers. -/
theorem pack_unpack {w : Int} (h : HoldsNumbers w) :
    pack (.float (unpack w).1) (.float (unpack w).2.1) (.float (unpack w).2.2) = wordOf w := by
  have hr := bitsAt_lt w 21 11
  have hg := bitsAt_lt w 10 11
  have hb := bitsAt_lt w 0 10
  obtain ⟨hfirst, hsecond, hthird⟩ := h
  rw [pack_eq, unpack, encode_decode (by decide) (by omega), encode_decode (by decide) (by omega),
    encode_decode (by decide) (by omega)]
  exact sum_channels w

theorem packValue_toValue (r g b : Number) :
    packValue (.list [r.toValue, g.toValue, b.toValue]) = .ok (pack r g b) := by
  cases r <;> cases g <;> cases b <;> rfl

/-- Packing loses nothing that a word can hold: the three numbers of any whole number, of any size and sign, are
packed into its low 32 bits, if its channels hold numbers. And it keeps the channels apart: any three numbers,
whatever their sign and size, infinite ones and what is no number included, give a word, and each of its channels
holds the code of its own number. -/
theorem packing_is_lossless_by_channel :
    (∀ w : Int, HoldsNumbers w →
        let (r, g, b) := unpack w
        packValue (.list [.float r, .float g, .float b]) = .ok (wordOf w))
      ∧ ∀ r g b : Number, ∃ word : Nat, packValue (.list [r.toValue, g.toValue, b.toValue]) = .ok word
          ∧ word < 2 ^ 32 ∧ bitsAt word 21 11 = encode 4 r ∧ bitsAt word 10 11 = encode 4 g
          ∧ bitsAt word 0 10 = encode 5 b := by
  constructor
  · intro w h
    have hpacked := packValue_toValue (.float (unpack w).1) (.float (unpack w).2.1) (.float (unpack w).2.2)
    rw [pack_unpack h] at hpacked
    exact hpacked
  · intro r g b
    exact ⟨pack r g b, packValue_toValue r g b, pack_lt r g b, channels_pack r g b⟩

/-- A negative number beyond 32 bits, with one, one and the smallest number above zero in its channels. -/
theorem packing_is_lossless_by_channel_below_zero :
    HoldsNumbers (2014248961 - 3 * 2 ^ 32)
      ∧ let (r, g, b) := unpack (2014248961 - 3 * 2 ^ 32)
        packValue (.list [.float r, .float g, .float b]) = .ok 2014248961 := by
  have h : HoldsNumbers (2014248961 - 3 * 2 ^ 32) :=
    ⟨by decide, by decide, by decide⟩
  exact ⟨h, packing_is_lossless_by_channel.1 _ h⟩

end SmallFloat

end ShaderRecords

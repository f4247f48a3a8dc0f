/-
ShaderRecords.Proofs.Include.BitFieldFunctions — the functions for bit fields do what the codec does.

The expressions that read and write bit fields are put together from parts, and each part gets one lemma that
says that it is written, that its text has one reading, and what its value is: the place of a number in the
range (`exists_placed`), its code (`exists_quantized`), the code in its place (`eval_shifted`) and the number
that a place stands for (`exists_decoded`). The special cases in which a part is left out — a range from zero
to one, a range that begins at zero, a field that begins at the lowest bit — are gone from there on.

The main theorem joins them: for every bit field that resolution gives, reading, setting and initializing on
the shader side agree with `Layout.decodeBits`, `Layout.insertBits` and `Layout.initBits`, where arithmetic
is exact and the numbers of the range are read as any rational numbers that differ.
-/
import ShaderRecords.Include.PackedFunctions
import ShaderRecords.Proofs.Include.Evaluation
import ShaderRecords.Proofs.Storage.Quantization

namespace ShaderRecords

/-- A value of the shader language as the content of a bit field. -/
def ShaderValue.content : ShaderValue → FieldValue Rat
  | word w => .whole w.toNat
  | real x => .fraction x

namespace Layout

variable {l : Layout Rat}

/-! ## The range -/

/-- A range that is not remapped is the one from zero to one. -/
theorem range_eq_of_not_isRemapped (h : l.isRemapped = false) : l.range = (0, 1) := by
  simp only [isRemapped, same_rat, zero_rat, one_rat, Bool.not_eq_false', Bool.and_eq_true,
    decide_eq_true_eq] at h
  exact Prod.ext h.1 h.2

section Magnitudes

variable {w : BitVec 32} {x : ShaderValue} {e : Formula Rat} {t : Rat}

/-- An expression is scaled by a constant. -/
theorem eval_scaled (he : e.eval w x = some (.real t)) (c : Rat) :
    (Formula.group (.binary .times e (.constant c))).eval w x = some (.real (t * c)) := by
  have hconstant : (Formula.constant c).eval w x = some (.real c) := rfl
  rw [Formula.eval_group, Formula.eval_binary .times he hconstant]
  rfl

/-- A constant is added by its sign and its magnitude. -/
theorem eval_add_magnitude (he : e.eval w x = some (.real t)) (c : Rat) :
    (Formula.group (.binary (if 0 < c then .plus else .minus) e (.constant |c|))).eval w x
      = some (.real (t + c)) := by
  have hconstant : (Formula.constant |c|).eval w x = some (.real |c|) := rfl
  rw [Formula.eval_group, Formula.eval_binary _ he hconstant]
  by_cases hpos : 0 < c
  · rw [if_pos hpos, abs_of_pos hpos]
    rfl
  · rw [if_neg hpos, abs_of_nonpos (not_lt.mp hpos)]
    show some (ShaderValue.real (t - -c)) = some (.real (t + c))
    rw [sub_neg_eq_add]

/-- A constant is subtracted by its sign and its magnitude. -/
theorem eval_sub_magnitude (he : e.eval w x = some (.real t)) (c : Rat) :
    (Formula.group (.binary (if 0 < c then .minus else .plus) e (.constant |c|))).eval w x
      = some (.real (t - c)) := by
  have hconstant : (Formula.constant |c|).eval w x = some (.real |c|) := rfl
  rw [Formula.eval_group, Formula.eval_binary _ he hconstant]
  by_cases hpos : 0 < c
  · rw [if_pos hpos, abs_of_pos hpos]
    rfl
  · rw [if_neg hpos, abs_of_nonpos (not_lt.mp hpos)]
    show some (ShaderValue.real (t + -c)) = some (.real (t - c))
    rw [sub_eq_add_neg]

end Magnitudes

/-- The expression for a place of the range is made into one for the number at that place. -/
theorem exists_decoded (l : Layout Rat) {e : Formula Rat} (hatom : e.isAtom = true)
    (hdelimited : e.Delimited) :
    ∃ e', l.decoded e = .ok e' ∧ e'.Delimited
      ∧ ∀ w x t, e.eval w x = some (.real t) →
          e'.eval w x = some (.real (t * (l.range.2 - l.range.1) + l.range.1)) := by
  unfold decoded
  cases hremapped : l.isRemapped with
  | false =>
    refine ⟨e, rfl, hdelimited, fun w x t he => ?_⟩
    rw [he, range_eq_of_not_isRemapped hremapped]
    simp
  | true =>
    rcases l.range with ⟨lo, hi⟩
    simp only [Bool.not_true, Bool.false_eq_true, if_false, sub_rat, ok_bind, same_rat, zero_rat,
      lt_rat, magnitude_rat, pure_eq_ok, decide_eq_true_eq]
    by_cases hzero : lo = 0
    · refine ⟨_, if_pos hzero, ⟨⟨hatom, rfl⟩, hdelimited, trivial⟩, fun w x t he => ?_⟩
      rw [eval_scaled he, hzero, add_zero]
    · refine ⟨_, if_neg hzero, ⟨⟨rfl, rfl⟩, ⟨⟨hatom, rfl⟩, hdelimited, trivial⟩, trivial⟩,
        fun w x t he => ?_⟩
      exact eval_add_magnitude (eval_scaled he _) lo

/-- The expression for the place of the argument in a range with two ends. -/
theorem exists_placed (hends : l.range.1 ≠ l.range.2) :
    ∃ e, l.placed = .ok e ∧ e.Delimited
      ∧ ∀ w t, e.eval w (.real t)
          = some (.real ((t - l.range.1) / (l.range.2 - l.range.1))) := by
  unfold placed
  cases hremapped : l.isRemapped with
  | false =>
    refine ⟨.argument, rfl, trivial, fun w t => ?_⟩
    rw [range_eq_of_not_isRemapped hremapped]
    simp
  | true =>
    revert hends
    rcases l.range with ⟨lo, hi⟩
    intro hends
    have hlength : hi - lo ≠ 0 := sub_ne_zero.mpr (Ne.symm hends)
    have hplace : ∀ t, (t - lo) / (hi - lo) = t * (1 / (hi - lo)) - lo * (1 / (hi - lo)) := by
      intro t
      rw [← sub_mul, mul_one_div]
    have hargument : ∀ w t, (Formula.argument).eval w (.real t) = some (.real t) := fun _ _ => rfl
    simp only [Bool.not_true, Bool.false_eq_true, if_false, sub_rat, ok_bind, one_rat, div_rat _ hlength,
      mul_rat, same_rat, zero_rat, lt_rat, magnitude_rat, pure_eq_ok, decide_eq_true_eq, hplace]
    generalize 1 / (hi - lo) = inverse
    by_cases hzero : lo * inverse = 0
    · refine ⟨_, if_pos hzero, ⟨⟨rfl, rfl⟩, trivial, trivial⟩, fun w t => ?_⟩
      rw [eval_scaled (hargument w t), hzero, sub_zero]
    · refine ⟨_, if_neg hzero, ⟨⟨rfl, rfl⟩, ⟨⟨rfl, rfl⟩, trivial, trivial⟩, trivial⟩, fun w t => ?_⟩
      exact eval_sub_magnitude (eval_scaled (hargument w t) _) (lo * inverse)

/-! ## The parts of a bit field -/

namespace IsBitField

variable {w : BitVec 32} {x : ShaderValue}

/-- The largest code as a constant is the word with ones in the lowest places. -/
theorem eval_mask (h : l.IsBitField) :
    (Formula.wholeUint (2 ^ l.bits - 1)).eval w x = some (.word (lowOnes l.bits)) := by
  have hle := h.two_pow_bits_le
  have hpos := Nat.two_pow_pos l.bits
  exact ShaderValue.ofInt?_natCast (by omega)

/-- The place of the lowest bit as a constant. -/
theorem eval_offset (h : l.IsBitField) :
    (Formula.whole l.offset).eval w x = some (.word (BitVec.ofNat 32 l.start)) := by
  have hle := h.start_add_bits_le
  rw [Formula.eval_whole, h.offset_eq]
  exact ShaderValue.ofInt?_natCast (by omega)

/-- The number of bits as a constant. -/
theorem eval_width (h : l.IsBitField) :
    (Formula.whole l.width).eval w x = some (.word (BitVec.ofNat 32 l.bits)) := by
  have hle := h.start_add_bits_le
  rw [Formula.eval_whole, h.width_eq]
  exact ShaderValue.ofInt?_natCast (by omega)

/-- The constants of a bit field are what they stand for. -/
theorem toNat_constants (h : l.IsBitField) :
    (BitVec.ofNat 32 l.start).toNat = l.start ∧ (BitVec.ofNat 32 l.bits).toNat = l.bits := by
  have hle := h.start_add_bits_le
  rw [BitVec.toNat_ofNat, BitVec.toNat_ofNat]
  exact ⟨Nat.mod_eq_of_lt (by omega), Nat.mod_eq_of_lt (by omega)⟩

/-- A moved expression has the value moved by as many places. -/
theorem eval_shifted (h : l.IsBitField) {e : Formula Rat} {code : BitVec 32}
    (he : e.eval w x = some (.word code)) :
    (l.shifted e).eval w x = some (.word (code <<< l.start)) := by
  have hle := h.start_add_bits_le
  have hbits := h.one_le_bits
  unfold shifted
  by_cases hzero : l.offset.toInt = 0
  · rw [if_pos hzero, he, start, hzero]
    simp
  · have hplace : l.start < 32 := by omega
    rw [if_neg hzero, Formula.eval_binary .shiftLeft he h.eval_offset]
    simp [Operator.apply, Operator.onWords, h.toNat_constants.1, hplace]

end IsBitField

/-- Moving an atom gives a delimited expression. -/
theorem delimited_shifted (l : Layout Rat) {e : Formula Rat} (hatom : e.isAtom = true)
    (hdelimited : e.Delimited) : (l.shifted e).Delimited := by
  unfold shifted
  by_cases hzero : l.offset.toInt = 0
  · rwa [if_pos hzero]
  · rw [if_neg hzero]
    exact ⟨⟨hatom, rfl⟩, hdelimited, trivial⟩

/-- A bit field is handed out and taken in as a number if its codes stand for numbers of a range, and as a
word otherwise. -/
theorem IsBitField.valueType?_eq (h : l.IsBitField)
    (hfraction : l.scheme = some .packedFloat → l.normalized = true) :
    l.valueType? = some (if l.normalized then "float" else "uint") := by
  unfold valueType?
  rcases h.scheme_eq with hs | hs
  · rw [hs, hfraction hs]
    rfl
  · rw [hs]

/-- In a field with a range, the expression for the code of the argument has the quantized number as its
value. -/
theorem IsBitField.exists_quantized_of_normalized (h : l.IsBitField) (hends : l.range.1 ≠ l.range.2)
    (hnormalized : l.normalized = true) :
    ∃ e, l.quantized = .ok e ∧ (e.isAtom = true ∧ e.Delimited)
      ∧ ∀ w t, ∃ code : Nat, code < 2 ^ l.bits
          ∧ e.eval w (.real t) = some (.word (BitVec.ofNat 32 code))
          ∧ l.quantize t = .ok (code : Int) := by
  obtain ⟨place, hplace, hdelimited, heval⟩ := exists_placed hends
  unfold quantized
  rw [if_pos hnormalized, hplace, h.mask_eq]
  refine ⟨_, rfl, ⟨rfl, rfl, ⟨rfl, rfl⟩, hdelimited, trivial⟩, fun w t => ?_⟩
  obtain ⟨code, hlt, hfloor, hcode⟩ := h.exists_code hends t
  refine ⟨code, hlt, ?_, hcode⟩
  have hword : code < 2 ^ 32 := Nat.lt_of_lt_of_le hlt h.two_pow_bits_le
  have hsaturated := Formula.eval_call .saturate (heval w t)
  have hmask : (Formula.wholeFloat (2 ^ l.bits - 1)).eval w (.real t)
      = some (.real (2 ^ l.bits - 1 : Nat)) := rfl
  have hscaled := Formula.eval_binary .times hsaturated hmask
  rw [← Formula.eval_group] at hscaled
  rw [Formula.eval_group, Formula.eval_toUint hscaled]
  exact (congrArg ShaderValue.ofInt? hfloor).trans (ShaderValue.ofInt?_natCast hword)

/-- In a field of plain whole numbers, the expression for the code of the argument has its low bits as its
value. -/
theorem IsBitField.exists_quantized_of_plain (h : l.IsBitField) (hplain : l.normalized = false) :
    ∃ e, l.quantized = .ok e ∧ (e.isAtom = true ∧ e.Delimited)
      ∧ ∀ w n, e.eval w (.word n) = some (.word (n &&& lowOnes l.bits)) := by
  unfold quantized
  rw [if_neg (by simp [hplain]), h.mask_eq]
  refine ⟨_, rfl, ⟨rfl, ⟨rfl, rfl⟩, trivial, trivial⟩, fun w n => ?_⟩
  rw [Formula.eval_group, Formula.eval_binary .and rfl h.eval_mask]
  rfl

/-- The expression for the code of the argument: it is written, its text has one reading, and for every
argument of the type that is taken in its value is the code that the codec stores. -/
theorem IsBitField.exists_quantized (h : l.IsBitField) (hends : l.range.1 ≠ l.range.2)
    (hfraction : l.scheme = some .packedFloat → l.normalized = true) :
    ∃ e, l.quantized = .ok e ∧ (e.isAtom = true ∧ e.Delimited)
      ∧ ∀ w x, l.valueType? = some x.type → ∃ code : BitVec 32,
          e.eval w x = some (.word code) ∧ code.toNat < 2 ^ l.bits
            ∧ l.codeFor x.content = .ok (code.toNat : Int) := by
  rw [h.valueType?_eq hfraction]
  cases hnormalized : l.normalized with
  | true =>
    obtain ⟨e, he, hatom, heval⟩ := h.exists_quantized_of_normalized hends hnormalized
    refine ⟨e, he, hatom, fun w x htype => ?_⟩
    cases x with
    | word _ => simp [ShaderValue.type] at htype
    | real t =>
      obtain ⟨code, hlt, hvalue, hcode⟩ := heval w t
      have hword : (BitVec.ofNat 32 code).toNat = code := by
        rw [BitVec.toNat_ofNat, Nat.mod_eq_of_lt (Nat.lt_of_lt_of_le hlt h.two_pow_bits_le)]
      refine ⟨_, hvalue, hword.symm ▸ hlt, ?_⟩
      rw [hword]
      exact hcode
  | false =>
    obtain ⟨e, he, hatom, heval⟩ := h.exists_quantized_of_plain hnormalized
    refine ⟨e, he, hatom, fun w x htype => ?_⟩
    cases x with
    | real _ => simp [ShaderValue.type] at htype
    | word n =>
      have hcode : (n &&& lowOnes l.bits).toNat = n.toNat % 2 ^ l.bits := by
        rw [BitVec.toNat_and, toNat_lowOnes h.bits_le, Nat.and_two_pow_sub_one_eq_mod]
      refine ⟨_, heval w n, hcode ▸ Nat.mod_lt _ (Nat.two_pow_pos l.bits), ?_⟩
      rw [ShaderValue.content, h.codeFor_whole, hcode]
      norm_cast

/-! ## The functions -/

namespace IsBitField

/-- The call that divides the bits of a field by the largest code. -/
theorem eval_unpack (h : l.IsBitField) (w : BitVec 32) (x : ShaderValue) :
    (Formula.call3 .unpackUIntToFloat .stored (.whole l.offset) (.whole l.width)).eval w x
      = some (.real (bitsAt w.toNat l.start l.bits / (2 ^ l.bits - 1 : Nat))) := by
  have hones : (lowOnes l.bits).toNat = 2 ^ l.bits - 1 := toNat_lowOnes h.bits_le
  have hlargest : lowOnes l.bits ≠ 0 := by
    intro hzero
    have htwo : 2 ^ 1 ≤ 2 ^ l.bits := Nat.pow_le_pow_right (by decide) h.one_le_bits
    rw [hzero] at hones
    simp at hones
    omega
  obtain ⟨hstart, hbits⟩ := h.toNat_constants
  rw [Formula.eval_call3 .unpackUIntToFloat rfl h.eval_offset h.eval_width, Intrinsic.apply, hstart, hbits,
    if_neg hlargest, toNat_extracted w l.start l.bits h.bits_le, hones]

/-- The call that extracts the bits of a field. -/
theorem eval_extract (h : l.IsBitField) (w : BitVec 32) (x : ShaderValue) :
    (Formula.call3 .bitFieldExtract .stored (.whole l.offset) (.whole l.width)).eval w x
      = some (.word (extracted w l.start l.bits)) := by
  obtain ⟨hstart, hbits⟩ := h.toNat_constants
  rw [Formula.eval_call3 .bitFieldExtract rfl h.eval_offset h.eval_width, Intrinsic.apply, hstart, hbits]

/-- The quotient of the extracted bits and the largest code. -/
theorem eval_quotient (h : l.IsBitField) (w : BitVec 32) (x : ShaderValue) :
    (Formula.group (.binary .divide
        (.call3 .bitFieldExtract .stored (.whole l.offset) (.whole l.width))
        (.wholeFloat (2 ^ l.bits - 1)))).eval w x
      = some (.real (bitsAt w.toNat l.start l.bits / (2 ^ l.bits - 1 : Nat))) := by
  have hmask : (Formula.wholeFloat (2 ^ l.bits - 1)).eval w x = some (.real (2 ^ l.bits - 1 : Nat)) := rfl
  rw [Formula.eval_group, Formula.eval_binary .divide (h.eval_extract w x) hmask, Operator.apply_real,
    Operator.onReals_divide _ h.mask_ne_zero, ShaderValue.toRat,
    toNat_extracted w l.start l.bits h.bits_le]
  rfl

/-- The expression that reads a bit field has, for every word, the value that the codec decodes. -/
theorem exists_getter (h : l.IsBitField)
    (hfraction : l.scheme = some .packedFloat → l.normalized = true) :
    ∃ e, l.getter? = .ok (some e) ∧ e.Delimited
      ∧ ∀ w x, ∃ r, e.eval w x = some r ∧ l.valueType? = some r.type
          ∧ l.decodeBits w.toNat = .ok r.content := by
  have htype := h.valueType?_eq hfraction
  have hsome : ¬l.valueType?.isNone = true := by simp [htype]
  unfold getter?
  rw [if_neg hsome, htype]
  rcases h.scheme_eq with hs | hs
  · obtain ⟨e, he, hdelimited, heval⟩ := l.exists_decoded
      (e := .call3 .unpackUIntToFloat .stored (.whole l.offset) (.whole l.width)) rfl
      ⟨trivial, trivial, trivial⟩
    rw [hs]
    refine ⟨e, by simp [he], hdelimited, fun w x => ?_⟩
    refine ⟨_, heval w x _ (h.eval_unpack w x), by simp [hfraction hs, ShaderValue.type], ?_⟩
    exact h.decodeBits_of_normalized (hfraction hs) w.toNat
  · rw [hs]
    cases hnormalized : l.normalized with
    | true =>
      obtain ⟨e, he, hdelimited, heval⟩ := l.exists_decoded
        (e := .group (.binary .divide
          (.call3 .bitFieldExtract .stored (.whole l.offset) (.whole l.width))
          (.wholeFloat (2 ^ l.bits - 1)))) rfl
        ⟨⟨rfl, rfl⟩, ⟨trivial, trivial, trivial⟩, trivial⟩
      refine ⟨e, by simp [h.mask_eq, he], hdelimited, fun w x => ?_⟩
      refine ⟨_, heval w x _ (h.eval_quotient w x), rfl, ?_⟩
      exact h.decodeBits_of_normalized hnormalized w.toNat
    | false =>
      refine ⟨_, rfl, ⟨trivial, trivial, trivial⟩, fun w x => ?_⟩
      refine ⟨_, h.eval_extract w x, rfl, ?_⟩
      rw [decodeBits, h.code_eq, ok_bind, if_neg (by simp [hnormalized]), ShaderValue.content,
        toNat_extracted w l.start l.bits h.bits_le]
      rfl

/-- The statement that sets a bit field leaves, for every word and argument, the word that the codec gives
by insertion. -/
theorem exists_store_set (h : l.IsBitField) (hends : l.range.1 ≠ l.range.2)
    (hfraction : l.scheme = some .packedFloat → l.normalized = true) :
    ∃ s, l.store .set = .ok s ∧ s.Delimited
      ∧ ∀ w x, l.valueType? = some x.type → ∃ r, s.run w x = some r
          ∧ l.insertBits w.toNat x.content = .ok (r.toNat : Int) := by
  obtain ⟨e, he, ⟨hatom, hdelimited⟩, heval⟩ := h.exists_quantized hends hfraction
  have hstore : l.store .set = .ok (.assign (.call3 .bitFieldInsert
      (l.shifted (.wholeUint (2 ^ l.bits - 1))) (l.shifted e) .stored)) := by
    unfold store
    rcases h.scheme_eq with hs | hs <;> rw [hs, he, h.mask_eq] <;> rfl
  refine ⟨_, hstore, ⟨l.delimited_shifted rfl trivial, l.delimited_shifted hatom hdelimited, trivial⟩,
    fun w x htype => ?_⟩
  obtain ⟨code, hcode, hlt, hcodeFor⟩ := heval w x htype
  refine ⟨(code <<< l.start &&& lowOnes l.bits <<< l.start)
    ||| (w &&& ~~~(lowOnes l.bits <<< l.start)), ?_, ?_⟩
  · rw [Store.run, Formula.eval_call3 .bitFieldInsert (h.eval_shifted h.eval_mask) (h.eval_shifted hcode) rfl]
    rfl
  · rw [h.insertBits_eq w.isLt hcodeFor, toNat_masked hlt h.start_add_bits_le]

/-- The statement that initializes a bit field leaves, for every word and argument, the word that the codec
gives by initialization. -/
theorem exists_store_fill (h : l.IsBitField) (hends : l.range.1 ≠ l.range.2)
    (hfraction : l.scheme = some .packedFloat → l.normalized = true) :
    ∃ s, l.store .fill = .ok s ∧ s.Delimited
      ∧ ∀ w x, l.valueType? = some x.type → ∃ r, s.run w x = some r
          ∧ l.initBits w.toNat x.content = .ok (r.toNat : Int) := by
  obtain ⟨e, he, ⟨hatom, hdelimited⟩, heval⟩ := h.exists_quantized hends hfraction
  have hstore : l.store .fill = .ok (.orAssign (l.shifted e)) := by
    unfold store
    rcases h.scheme_eq with hs | hs <;> rw [hs, he] <;> rfl
  refine ⟨_, hstore, l.delimited_shifted hatom hdelimited, fun w x htype => ?_⟩
  obtain ⟨code, hcode, hlt, hcodeFor⟩ := heval w x htype
  refine ⟨w ||| code <<< l.start, ?_, ?_⟩
  · rw [Store.run, h.eval_shifted hcode]
    rfl
  · rw [h.initBits_eq w.toNat hcodeFor, BitVec.toNat_or, toNat_shiftLeft_of_lt hlt h.start_add_bits_le]

end IsBitField

end Layout

/-- The functions for a bit field that resolution gives agree with the codec, for every word and for every
argument of the type that is taken in. The ends of the range may be read as any two different rational
numbers, arithmetic is exact, and every text has one reading. The codec is the one that documents are stored
with, as the last part says. -/
theorem bit_field_functions_agree {typeName : Value} {m : Member} {d : Directive}
    {resolved : Layout Number} (hresolved : Layout.ofDirective typeName m d = .ok resolved)
    (hscheme : ∃ s, resolved.scheme = some s ∧ s.isBitField = true) (reading : Number → Rat)
    (hends : reading resolved.range.1 ≠ reading resolved.range.2) :
    let l := resolved.mapRange reading
    (∃ e, l.getter? = .ok (some e) ∧ e.Delimited
        ∧ ∀ w x, ∃ r, e.eval w x = some r ∧ l.valueType? = some r.type
            ∧ l.decodeBits w.toNat = .ok r.content)
      ∧ (∃ s, l.store .set = .ok s ∧ s.Delimited
        ∧ ∀ w x, l.valueType? = some x.type → ∃ r, s.run w x = some r
            ∧ l.insertBits w.toNat x.content = .ok (r.toNat : Int))
      ∧ (∃ s, l.store .fill = .ok s ∧ s.Delimited
        ∧ ∀ w x, l.valueType? = some x.type → ∃ r, s.run w x = some r
            ∧ l.initBits w.toNat x.content = .ok (r.toNat : Int))
      ∧ ∀ word v,
          resolved.decode (.int word) = orBreak (FieldValue.toValue <$> resolved.decodeBits word)
            ∧ resolved.insert (.int word) v
              = orBreak (do return .int (← resolved.insertBits word (← resolved.contentOf v)))
            ∧ resolved.init (.int word) v
              = orBreak (do return .int (← resolved.initBits word (← resolved.contentOf v))) := by
  intro l
  have hfield := Layout.isBitField_of_ofDirective hresolved hscheme
  have h : l.IsBitField := hfield.mapRange reading
  have hfraction : l.scheme = some .packedFloat → l.normalized = true := fun hs =>
    Layout.normalized_of_ofDirective hresolved hs
  exact ⟨h.exists_getter hfraction, h.exists_store_set hends hfraction, h.exists_store_fill hends hfraction,
    fun word v => ⟨hfield.decode_eq word, hfield.insert_eq word v, hfield.init_eq word v⟩⟩

/-- One half, set in the middle of a word for a range from minus one to one: three quarters of the largest
code, rounded down, and the bits around it stay. -/
theorem bit_field_functions_agree_between_neighbours :
    let d : Directive := { scheme := .text "PackedFloat", offset := 4, width := some 8, range := some [-1, 1] }
    let reading : Number → Rat := fun n =>
      match n with
      | .int n => n
      | .float x => ((Binary64.ofFloat x).rat?).getD 0
    ∃ resolved s, Layout.ofDirective (.text "S") { name := .text "bits", type := "uint" } d = .ok resolved
      ∧ (resolved.mapRange reading).store .set = .ok s
      ∧ s.run 0xF00F (.real (1 / 2)) = some 0xFBFF := by
  intro d reading
  let resolved : Layout Number :=
    { field := .text "bits", fieldType := "uint", scheme := some .packedFloat, offset := 4, width := 8
      range := (.float (-1), .float 1), labels := [.text "bits"] }
  have hresolved : Layout.ofDirective (.text "S") { name := .text "bits", type := "uint" } d
      = .ok resolved := by
    have hscheme : Scheme.ofValue? (.text "PackedFloat") = .ok (some .packedFloat) := by
      decide
    unfold Layout.ofDirective
    rw [hscheme]
    rfl
  have hends : reading resolved.range.1 ≠ reading resolved.range.2 := by decide +kernel
  have hinserted : (resolved.mapRange reading).insertBits 0xF00F (.fraction (1 / 2))
      = .ok 0xFBFF := by decide +kernel
  obtain ⟨-, ⟨s, hs, -, hset⟩, -⟩ :=
    bit_field_functions_agree hresolved ⟨.packedFloat, rfl, rfl⟩ reading hends
  obtain ⟨r, hrun, hr⟩ := hset 0xF00F (.real (1 / 2)) rfl
  have hword : r.toNat = 0xFBFF := by
    have heq := Except.ok.inj (hr.symm.trans hinserted)
    exact_mod_cast heq
  exact ⟨resolved, s, hresolved, hs, hrun.trans (congrArg some (BitVec.eq_of_toNat_eq hword))⟩

end ShaderRecords

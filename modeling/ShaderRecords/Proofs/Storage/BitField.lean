/-
ShaderRecords.Proofs.Storage.BitField — layouts that take a run of bits of a word.

The layouts of two schemes are bit fields: resolution gives them between one and all bits of the word, none
of them outside it (`isBitField_of_ofDirective`). For a bit field nothing that is done to bits can break down,
and each operation has one equation over words (`mask_eq`, `place_eq`, `code_eq`, `cleared_eq`), so that
reading and writing one come down to `bitsAt` and `replaceBits`.

What is stored in a bit field is a whole number or a number of its range (`FieldValue`). The functions on
these, `insertBits`, `initBits` and `decodeBits`, are written over any `Arithmetic`; over `Number` they are
what `Layout.insert`, `Layout.init` and `Layout.decode` do (`insert_eq`, `init_eq`, `decode_eq`).
-/
import ShaderRecords.Proofs.Failure
import ShaderRecords.Proofs.Number.Bits
import ShaderRecords.Proofs.Storage.Resolution
import ShaderRecords.Storage.Codec

namespace ShaderRecords

/-- A number that is moved up by fewer places than the memory holds is multiplied. -/
theorem shiftUp_eq_ok {places : Int} (hnonneg : 0 ≤ places) (hlt : places < memoryPlaces) (n : Int) :
    shiftUp n places = .ok (n * (2 ^ places.toNat : Nat)) := by
  have haddress : places < addressPlaces := Int.lt_trans hlt (by decide)
  unfold shiftUp
  rw [if_neg (by omega)]
  by_cases hn : n = 0
  · simp [hn]
  · rw [if_neg hn, if_neg (by omega), if_neg (by omega)]

namespace Layout

variable {α : Type} {l : Layout α}

/-! ## The bits of a layout -/

/-- The place of the lowest bit of a layout. -/
def start (l : Layout α) : Nat :=
  l.offset.toInt.toNat

/-- The number of bits of a layout. -/
def bits (l : Layout α) : Nat :=
  l.width.toInt.toNat

/-- The largest code of a layout has only ones, if the memory holds them. -/
theorem mask_eq_of_width (hnonneg : 0 ≤ l.width.toInt) (hlt : l.width.toInt < memoryPlaces) :
    l.mask = .ok (2 ^ l.bits - 1) := by
  rw [mask, shiftUp_eq_ok hnonneg hlt, ok_bind, Int.one_mul, Int.toNat_natCast]
  rfl

/-- Whether a layout takes a run of bits inside the word. -/
structure IsBitField (l : Layout α) : Prop where
  exists_scheme : ∃ s, l.scheme = some s ∧ s.isBitField = true
  one_le_width : 1 ≤ l.width.toInt
  offset_nonneg : 0 ≤ l.offset.toInt
  fits : l.offset.toInt + l.width.toInt ≤ wordBits

/-- Resolution gives a scheme for bits a run of bits inside the word. -/
theorem isBitField_of_ofDirective {typeName : Value} {m : Member} {d : Directive} {l : Layout Number}
    (h : Layout.ofDirective typeName m d = .ok l)
    (hscheme : ∃ s, l.scheme = some s ∧ s.isBitField = true) : l.IsBitField := by
  obtain ⟨s, hs, hbits⟩ := hscheme
  obtain ⟨scheme, bits, range, -, htaken, -, -, rfl⟩ := Layout.ofDirective_eq_ok_iff.mp h
  obtain rfl : scheme = s := Option.some.inj hs
  obtain ⟨hwidth, hplace, rfl⟩ := (Directive.bits_eq_ok_iff hbits).mp htaken
  exact ⟨⟨scheme, rfl, hbits⟩, hwidth.1, hplace.1, hplace.2⟩

/-- A layout for fractions of the largest code has codes that stand for fractions. -/
theorem normalized_of_ofDirective {typeName : Value} {m : Member} {d : Directive} {l : Layout Number}
    (h : Layout.ofDirective typeName m d = .ok l) (hscheme : l.scheme = some .packedFloat) :
    l.normalized = true := by
  obtain ⟨scheme, bits, range, -, -, -, -, rfl⟩ := Layout.ofDirective_eq_ok_iff.mp h
  obtain rfl : scheme = .packedFloat := Option.some.inj hscheme
  simp [Directive.layout]

namespace IsBitField

/-- Two schemes store values in some bits of the word. -/
theorem scheme_eq (h : l.IsBitField) :
    l.scheme = some .packedFloat ∨ l.scheme = some .packedUint := by
  obtain ⟨s, hs, hbits⟩ := h.exists_scheme
  cases s with
  | packedFloat => exact Or.inl hs
  | packedUint => exact Or.inr hs
  | smallFloats => simp [Scheme.isBitField] at hbits
  | noPacking => simp [Scheme.isBitField] at hbits

theorem scheme_ne_smallFloats (h : l.IsBitField) : l.scheme ≠ some .smallFloats := by
  rcases h.scheme_eq with hs | hs <;> simp [hs]

/-- A bit field is as wide as the number of its bits says. -/
theorem width_eq (h : l.IsBitField) : l.width.toInt = l.bits :=
  (Int.toNat_of_nonneg (Int.le_trans (by decide) h.one_le_width)).symm

/-- A bit field begins where its lowest bit is. -/
theorem offset_eq (h : l.IsBitField) : l.offset.toInt = l.start :=
  (Int.toNat_of_nonneg h.offset_nonneg).symm

theorem one_le_bits (h : l.IsBitField) : 1 ≤ l.bits := by
  have hwidth := h.one_le_width
  rw [h.width_eq] at hwidth
  omega

/-- A bit field ends inside the word. -/
theorem start_add_bits_le (h : l.IsBitField) : l.start + l.bits ≤ 32 := by
  have hfits := h.fits
  rw [h.offset_eq, h.width_eq, wordBits] at hfits
  omega

theorem bits_le (h : l.IsBitField) : l.bits ≤ 32 :=
  Nat.le_trans (Nat.le_add_left _ _) h.start_add_bits_le

/-- A bit field takes the same bits whatever the type of the numbers of its range. -/
theorem mapRange (h : l.IsBitField) {β : Type} (f : α → β) : (l.mapRange f).IsBitField :=
  ⟨h.exists_scheme, h.one_le_width, h.offset_nonneg, h.fits⟩

/-- The codes of a bit field are words. -/
theorem two_pow_bits_le (h : l.IsBitField) : 2 ^ l.bits ≤ 2 ^ 32 := by
  exact Nat.pow_le_pow_right (by decide) h.bits_le

/-- Moving a code to the place of a bit field multiplies it. -/
theorem place_eq (h : l.IsBitField) (code : Int) :
    l.place code = .ok (code * (2 ^ l.start : Nat)) := by
  have hmemory : l.offset.toInt < memoryPlaces := by
    have hle := h.start_add_bits_le
    rw [h.offset_eq, memoryPlaces]
    omega
  exact shiftUp_eq_ok h.offset_nonneg hmemory code

/-- The largest code has only ones. -/
theorem mask_eq (h : l.IsBitField) : l.mask = .ok (2 ^ l.bits - 1) := by
  have hmemory : l.width.toInt < memoryPlaces := by
    have hle := h.start_add_bits_le
    rw [h.width_eq, memoryPlaces]
    omega
  exact mask_eq_of_width (Int.le_trans (by decide) h.one_le_width) hmemory

/-- The code of a bit field is its run of bits. -/
theorem code_eq (h : l.IsBitField) (word : Int) :
    l.code word = .ok (bitsAt word l.start l.bits) := by
  have hnonneg := Int.not_lt.mpr h.offset_nonneg
  rw [code, h.mask_eq]
  simp [hnonneg, start, bits]

/-- A bit field is cleared by clearing its run of bits. -/
theorem cleared_eq (h : l.IsBitField) (word : Int) :
    l.cleared word = .ok (clearBits (wordOf word) l.start l.bits) := by
  rw [cleared, h.mask_eq, ok_bind, h.place_eq]
  rfl

end IsBitField

end Layout

/-! ## What a bit field holds -/

/-- What is stored in a bit field: a whole number, or a number of its range. -/
inductive FieldValue (α : Type) where
  | whole (n : Int)
  | fraction (x : α)
deriving Repr, DecidableEq

/-- What a bit field holds, as a document value. -/
def FieldValue.toValue : FieldValue Number → Value
  | whole n => .int n
  | fraction x => x.toValue

namespace Layout

section Codes

variable {α : Type} [Arithmetic α]

/-- The code of what is stored: the low bits of a whole number, the quantized number of a range. -/
def codeFor (l : Layout α) : FieldValue α → Except Breakdown Int
  | .whole n => do return n % ((← l.mask) + 1 : Nat)
  | .fraction x => l.quantize x

/-- The word with the bits of a layout replaced. -/
def insertBits (l : Layout α) (word : Int) (v : FieldValue α) : Except Breakdown Int := do
  let kept ← l.cleared word
  return orInt kept (← l.place (← l.codeFor v))

/-- The word with the bits of a layout added. -/
def initBits (l : Layout α) (word : Int) (v : FieldValue α) : Except Breakdown Int := do
  return orInt word (← l.place (← l.codeFor v))

/-- What the word holds in the bits of a layout. -/
def decodeBits (l : Layout α) (word : Int) : Except Breakdown (FieldValue α) := do
  let code ← l.code word
  if l.normalized then return .fraction (← l.dequantize code) else return .whole code

namespace IsBitField

variable {l : Layout α}

/-- The code of a whole number is the number modulo a power of two. -/
theorem codeFor_whole (h : l.IsBitField) (n : Int) :
    l.codeFor (.whole n) = .ok (n % (2 ^ l.bits : Nat)) := by
  rw [codeFor, h.mask_eq, ok_bind, pure_eq_ok, Nat.sub_add_cancel Nat.one_le_two_pow]

/-- Inserting a code into a word replaces the run of bits. -/
theorem insertBits_eq (h : l.IsBitField) {w code : Nat} (hw : w < 2 ^ 32) {v : FieldValue α}
    (hcode : l.codeFor v = .ok code) :
    l.insertBits w v = .ok (replaceBits w l.start l.bits code) := by
  rw [insertBits, h.cleared_eq, ok_bind, hcode, ok_bind, h.place_eq, ok_bind, wordOf_of_lt hw,
    ← Int.natCast_mul, orInt_natCast]
  rfl

/-- Adding a code to a word adds its ones. -/
theorem initBits_eq (h : l.IsBitField) (w : Nat) {code : Nat} {v : FieldValue α}
    (hcode : l.codeFor v = .ok code) :
    l.initBits w v = .ok ((w ||| code * 2 ^ l.start : Nat) : Int) := by
  rw [initBits, hcode, ok_bind, h.place_eq, ok_bind, ← Int.natCast_mul, orInt_natCast]
  rfl

end IsBitField

end Codes

/-! ## The functions on document values -/

/-- What a document value means as the content of a bit field. -/
def contentOf (l : Layout Number) (v : Value) : Except Breakdown (FieldValue Number) :=
  if l.normalized then do return .fraction (.float (← v.toFloat))
  else do return .whole (← v.truncated)

namespace IsBitField

variable {l : Layout Number}

/-- Encoding into a bit field moves the code of what the value means into place. -/
theorem encode_eq (h : l.IsBitField) (v : Value) :
    l.encode v = orBreak (do return .int (← l.place (← l.codeFor (← l.contentOf v)))) := by
  have hencode : l.encode v = orBreak (do
      if l.normalized then return .int (← l.fractionBits (.float (← v.toFloat)))
      else return .int (← l.plainBits (← v.truncated))) := by
    unfold encode
    rcases h.scheme_eq with hs | hs <;> rw [hs]
  rw [hencode, contentOf]
  cases hnormalized : l.normalized with
  | true =>
    simp only [if_true, bind_assoc, pure_bind, codeFor, fractionBits]
  | false =>
    simp only [Bool.false_eq_true, if_false, bind_assoc, pure_bind, codeFor, plainBits]

/-- Inserting into a bit field replaces its bits by those of what the value means. -/
theorem insert_eq (h : l.IsBitField) (word : Int) (v : Value) :
    l.insert (.int word) v
      = orBreak (do return .int (← l.insertBits word (← l.contentOf v))) := by
  rw [Layout.insert, if_neg h.scheme_ne_smallFloats, h.cleared_eq, h.encode_eq]
  cases hcontent : l.contentOf v with
  | error b => simp [Value.wholeNumber, h.cleared_eq]
  | ok content =>
    cases hcode : l.codeFor content with
    | error b => simp [Value.wholeNumber, h.cleared_eq, insertBits, hcode]
    | ok code => simp [Value.wholeNumber, h.cleared_eq, insertBits, hcode, h.place_eq]

/-- Initializing a bit field adds the bits of what the value means. -/
theorem init_eq (h : l.IsBitField) (word : Int) (v : Value) :
    l.init (.int word) v
      = orBreak (do return .int (← l.initBits word (← l.contentOf v))) := by
  rw [Layout.init, if_neg h.scheme_ne_smallFloats, h.encode_eq]
  cases hcontent : l.contentOf v with
  | error b => simp
  | ok content =>
    cases hcode : l.codeFor content with
    | error b => simp [initBits, hcode]
    | ok code => simp [Value.wholeNumber, initBits, hcode, h.place_eq]

/-- Decoding reads what the word holds in the bits of the layout. -/
theorem decode_eq (h : l.IsBitField) (word : Int) :
    l.decode (.int word) = orBreak (FieldValue.toValue <$> l.decodeBits word) := by
  have hdecode : l.decode (.int word) = orBreak (do
      let code ← l.code word
      if l.normalized then return (← l.dequantize code).toValue
      else return .int code) := by
    unfold decode
    rcases h.scheme_eq with hs | hs <;> rw [hs] <;> rfl
  rw [hdecode, decodeBits, h.code_eq]
  cases hnormalized : l.normalized with
  | true => cases hvalue : l.dequantize (bitsAt word l.start l.bits) <;> simp [FieldValue.toValue, hvalue]
  | false => simp [FieldValue.toValue]

end IsBitField

end Layout

end ShaderRecords

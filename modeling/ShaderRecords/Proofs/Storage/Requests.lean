/-
ShaderRecords.Proofs.Storage.Requests — which requests for storage get a layout, and what is told of the others.

A request is judged by four conditions, said here without the functions that check them: it asks for a scheme
that there is (`Directive.AsksFor`), it takes bits of the word (`Directive.FitsWord`), the member can back the
scheme (`Member.Backs`), and its range has two different ends (`Directive.HasEnds`). `resolve_fresh_iff` says
that a request whose layout is not remembered gets one exactly if all of them hold, and that otherwise the
first one that does not hold decides what is told. There is one exception. What is told of bits outside the
word names the last of them, and a number with too many digits cannot be written: the step breaks down.

What is handed out is well-formed (`Layout.WellFormed`): its codes lie in the word, it has labels and a value
type, and the divisors of reading and writing are not zero.
-/
import ShaderRecords.Proofs.Description.Reading
import ShaderRecords.Proofs.Number.Difference
import ShaderRecords.Proofs.Storage.BitField
import ShaderRecords.Proofs.Storage.Resolver

namespace ShaderRecords

/-! ## Conditions -/

/-- A text in lower case, without underscores and spaces. -/
def schemeKey (s : String) : String :=
  Text.lower (String.ofList (s.toList.filter fun c => c ≠ '_' ∧ c ≠ ' '))

/-- What is left of the name of a scheme in lower case. -/
def Scheme.key : Scheme → String
  | packedFloat => "packedfloat"
  | packedUint => "packeduint"
  | smallFloats => "r11g11b10"
  | noPacking => "nopacking"

/-- Whether a member can hold what a scheme stores: a word, or the value as it is. -/
def Member.Backs (m : Member) (scheme : Scheme) : Prop :=
  if scheme = .noPacking then m.type ∈ nativeTypes.map (·.1) else m.type = "uint"

namespace Directive

/-- Whether a request names a scheme. -/
def AsksFor (d : Directive) (scheme : Scheme) : Prop :=
  ∃ s, d.scheme = .text s ∧ schemeKey s = scheme.key

/-- Whether a request for some bits of the word says how many, and they are bits of the word. A request for
the whole word need not say it. -/
def FitsWord (d : Directive) (scheme : Scheme) : Prop :=
  scheme.isBitField = true → ∃ width, d.width = some width ∧ 1 ≤ width.toInt ∧ width.toInt ≤ wordBits
    ∧ 0 ≤ d.offset.toInt ∧ d.offset.toInt + width.toInt ≤ wordBits

/-- Whether the range of a request, if it gives one, has two ends and they differ. -/
def HasEnds (d : Directive) : Prop :=
  ∀ ends, d.range = some ends → ∃ lo hi, ends = [lo, hi] ∧ (lo == hi) = false

/-- Whether a request takes as many bits as a word may have, and the number of the last one has too many
digits to be written. -/
def EndsBeyondDigits (d : Directive) : Prop :=
  ∃ width, d.width = some width ∧ 1 ≤ width.toInt ∧ width.toInt ≤ wordBits
    ∧ isWritable (d.offset.toInt + width.toInt - 1) = false

/-- Whether the numbers that are told of bits outside the word can be written: those of the request, as all
that are read from a document, and that of the last bit. -/
structure BitsWritable (d : Directive) : Prop where
  offset : isWritable d.offset.toInt = true
  width : ∀ width, d.width = some width → isWritable width.toInt = true
  last : ¬d.EndsBeyondDigits

end Directive

/-- Whether a step meets an issue with a code. -/
def Tells {α : Type} (x : Except (Failure DirectiveError) α) (code : String) : Prop :=
  ∃ e, x = .error (.issue e) ∧ e.code = code

theorem tells_bind {α β : Type} {x : Except (Failure DirectiveError) α} {code : String} (h : Tells x code)
    (f : α → Except (Failure DirectiveError) β) : Tells (x >>= f) code := by
  obtain ⟨e, rfl, he⟩ := h
  exact ⟨e, rfl, he⟩

theorem ne_ok_of_tells {α : Type} {x : Except (Failure DirectiveError) α} {code : String} (h : Tells x code)
    (a : α) : x ≠ .ok a := by
  obtain ⟨e, rfl, -⟩ := h
  simp

/-! ## The checks -/

theorem Scheme.lower_label (scheme : Scheme) : Text.lower scheme.label = scheme.key := by
  cases scheme <;> decide

theorem Scheme.ofText?_eq_some_iff {s : String} {scheme : Scheme} :
    ofText? s = some scheme ↔ schemeKey s = scheme.key := by
  have hfind : ofText? s = all.find? fun other => other.key == schemeKey s := by
    simp only [ofText?, lower_label]
    rfl
  rw [hfind]
  generalize schemeKey s = key
  constructor
  · intro h
    have hkey : (scheme.key == key) = true := List.find?_some (p := fun other : Scheme => other.key == key) h
    exact (eq_of_beq hkey).symm
  · rintro rfl
    cases scheme <;> decide

/-- A scheme that is a text or missing is looked up, and found if it is asked for. -/
theorem Directive.exists_ofValue? {d : Directive} (h : d.scheme.IsTextOrNull) :
    ∃ found, Scheme.ofValue? d.scheme = .ok found ∧ ∀ scheme, found = some scheme ↔ d.AsksFor scheme := by
  rcases h with hnull | ⟨s, hs⟩
  · refine ⟨none, by rw [hnull]; rfl, fun scheme => ?_⟩
    simp [AsksFor, hnull]
  · refine ⟨Scheme.ofText? s, ?_, fun scheme => ?_⟩
    · rw [hs, Scheme.ofValue?]
      split
      · rfl
      next habsent =>
        obtain rfl : s = "" := by simpa [Value.isPresent] using habsent
        exact congrArg Except.ok (by decide)
    · rw [Scheme.ofText?_eq_some_iff]
      simp [AsksFor, hs]

namespace Directive

variable {d : Directive} {site : Site} {scheme : Scheme}

variable (site) in
/-- A request that fits the word gets its bits. -/
theorem gives_bits (h : d.FitsWord scheme) : Gives (d.bits site scheme) fun _ => True := by
  cases hscheme : scheme.isBitField with
  | true =>
    obtain ⟨width, hwidth, hone, hword, hplace, hfits⟩ := h hscheme
    refine ⟨_, (bits_eq_ok_iff hscheme).mpr ⟨?_, ?_, rfl⟩, trivial⟩
    · simp [hwidth, hone, hword]
    · simp [hwidth, hplace, hfits]
  | false =>
    unfold Directive.bits
    rw [hscheme, if_neg (by simp)]
    exact gives_ok trivial

variable (site) in
/-- A request for bits that does not fit the word is told, if the number of its last bit can be written. -/
theorem bits_of_not_fitsWord (h : ¬d.FitsWord scheme) :
    (d.EndsBeyondDigits → d.bits site scheme = .error (.breakdown .wrongContent))
      ∧ (¬d.EndsBeyondDigits → Tells (d.bits site scheme) "E_BIT_RANGE") := by
  have hscheme : scheme.isBitField = true := by
    by_contra hword
    exact h fun hbits => absurd hbits hword
  unfold Directive.bits
  rw [if_pos hscheme]
  dsimp only
  by_cases hwidth : 1 ≤ (d.width.getD 0).toInt ∧ (d.width.getD 0).toInt ≤ wordBits
  · obtain ⟨width, hgiven⟩ : ∃ width, d.width = some width := by
      refine Option.isSome_iff_exists.mp (Option.isSome_iff_ne_none.mpr fun hnone => ?_)
      rw [hnone] at hwidth
      exact absurd hwidth.1 (by decide)
    rw [hgiven, Option.getD_some] at hwidth ⊢
    have hplace : d.offset.toInt < 0 ∨ d.offset.toInt + width.toInt > wordBits := by
      by_contra hfits
      exact h fun _ => ⟨width, hgiven, hwidth.1, hwidth.2, by omega, by omega⟩
    have hlast : d.EndsBeyondDigits ↔ isWritable (d.offset.toInt + width.toInt - 1) = false := by
      simp [EndsBeyondDigits, hgiven, hwidth.1, hwidth.2]
    rw [if_neg (not_not_intro hwidth), if_pos hplace, hlast, wholeText]
    constructor
    · intro hdigits
      rw [hdigits]
      rfl
    · intro hdigits
      rw [if_pos (Bool.eq_true_of_not_eq_false hdigits)]
      exact ⟨_, rfl, rfl⟩
  · rw [if_pos hwidth]
    refine ⟨?_, fun _ => ⟨_, rfl, rfl⟩⟩
    rintro ⟨width, hgiven, hone, hword, -⟩
    exact absurd ⟨by simpa [hgiven] using hone, by simpa [hgiven] using hword⟩ hwidth

theorem gives_ends (h : d.HasEnds) : Gives (d.ends site) fun _ => True := by
  unfold ends
  cases hrange : d.range with
  | none => exact gives_ok trivial
  | some ends =>
    obtain ⟨lo, hi, rfl, hne⟩ := h ends hrange
    simp only [Option.getD_some, hne, Bool.false_eq_true, if_false]
    exact gives_ok trivial

theorem tells_ends (h : ¬d.HasEnds) : Tells (d.ends site) "E_VALUE_RANGE" := by
  obtain ⟨given, hgiven⟩ := not_forall.mp h
  obtain ⟨hrange, hends⟩ := Classical.not_imp.mp hgiven
  unfold ends
  rw [hrange, Option.getD_some]
  split
  next lo hi =>
    split
    · exact ⟨_, rfl, rfl⟩
    next hne => exact absurd ⟨lo, hi, rfl, Bool.eq_false_of_not_eq_true hne⟩ hends
  next => exact ⟨_, rfl, rfl⟩

end Directive

section Types

variable {m : Member} {site : Site} {scheme : Scheme}

theorem lookup_nativeTypes_isSome_iff {type : String} :
    (nativeTypes.lookup type).isSome = true ↔ type ∈ nativeTypes.map (·.1) := by
  rw [List.lookup_isSome_iff]
  simp

theorem Member.checkStorageType_of_backs (h : m.Backs scheme) : checkStorageType site scheme m.type = .ok () := by
  unfold Member.Backs at h
  unfold checkStorageType
  split
  next hplain =>
    rw [if_pos hplain, ← lookup_nativeTypes_isSome_iff] at h
    simp [Option.isNone_eq_false_iff.mpr h]
  next hplain =>
    rw [if_neg hplain] at h
    simp [h]

theorem Member.tells_checkStorageType (h : ¬m.Backs scheme) :
    Tells (checkStorageType site scheme m.type) "E_UNRECOGNIZED_TYPE" := by
  unfold Member.Backs at h
  unfold checkStorageType
  split
  next hplain =>
    rw [if_pos hplain, ← lookup_nativeTypes_isSome_iff, Option.not_isSome_iff_eq_none] at h
    rw [h]
    exact ⟨_, rfl, rfl⟩
  next hplain =>
    rw [if_neg hplain] at h
    rw [if_pos h]
    exact ⟨_, rfl, rfl⟩

end Types

/-! ## One request -/

section Verdict

variable {typeName : Value} {m : Member} {d : Directive} {scheme : Scheme}

/-- The checks after that of the scheme. -/
def Directive.checked (d : Directive) (typeName : Value) (m : Member) (scheme : Scheme) :
    Except (Failure DirectiveError) (Layout Number) := do
  let bits ← d.bits ⟨typeName, m.name⟩ scheme
  checkStorageType ⟨typeName, m.name⟩ scheme m.type
  let range ← d.ends ⟨typeName, m.name⟩
  return d.layout m scheme bits range

theorem Layout.ofDirective_of_asksFor (h : d.AsksFor scheme) :
    Layout.ofDirective typeName m d = d.checked typeName m scheme := by
  obtain ⟨s, hs, -⟩ := id h
  obtain ⟨found, hfound, hiff⟩ := d.exists_ofValue? (Or.inr ⟨s, hs⟩)
  obtain rfl := (hiff scheme).mpr h
  unfold Layout.ofDirective
  rw [hfound]
  rfl

theorem Layout.tells_ofDirective (hscheme : d.scheme.IsTextOrNull) (h : ∀ scheme, ¬d.AsksFor scheme) :
    Tells (Layout.ofDirective typeName m d) "E_UNKNOWN_SCHEME" := by
  obtain ⟨found, hfound, hiff⟩ := d.exists_ofValue? hscheme
  obtain rfl : found = none := Option.eq_none_iff_forall_ne_some.mpr fun scheme hsome =>
    h scheme ((hiff scheme).mp hsome)
  unfold Layout.ofDirective
  rw [hfound]
  exact ⟨_, rfl, rfl⟩

namespace Directive

theorem gives_checked (hbits : d.FitsWord scheme) (htype : m.Backs scheme) (hends : d.HasEnds) :
    Gives (d.checked typeName m scheme) fun _ => True := by
  refine (gives_bits _ hbits).bind fun _ _ => ?_
  rw [Member.checkStorageType_of_backs htype, ok_bind]
  exact (gives_ends hends).bind fun _ _ => gives_ok trivial

variable (typeName m) in
theorem checked_of_not_fitsWord (h : ¬d.FitsWord scheme) :
    (d.EndsBeyondDigits → d.checked typeName m scheme = .error (.breakdown .wrongContent))
      ∧ (¬d.EndsBeyondDigits → Tells (d.checked typeName m scheme) "E_BIT_RANGE") := by
  obtain ⟨hbreaks, htells⟩ := bits_of_not_fitsWord ⟨typeName, m.name⟩ h
  refine ⟨fun hdigits => ?_, fun hdigits => tells_bind (htells hdigits) _⟩
  rw [checked, hbreaks hdigits, error_bind]

theorem tells_checked_of_not_backs (hbits : d.FitsWord scheme) (h : ¬m.Backs scheme) :
    Tells (d.checked typeName m scheme) "E_UNRECOGNIZED_TYPE" := by
  obtain ⟨bits, hgiven, -⟩ := gives_bits ⟨typeName, m.name⟩ hbits
  rw [checked, hgiven, ok_bind]
  exact tells_bind (Member.tells_checkStorageType h) _

theorem tells_checked_of_not_hasEnds (hbits : d.FitsWord scheme) (htype : m.Backs scheme) (h : ¬d.HasEnds) :
    Tells (d.checked typeName m scheme) "E_VALUE_RANGE" := by
  obtain ⟨bits, hgiven, -⟩ := gives_bits ⟨typeName, m.name⟩ hbits
  rw [checked, hgiven, ok_bind, Member.checkStorageType_of_backs htype, ok_bind]
  exact tells_bind (tells_ends h) _

/-- The checks give a layout exactly if all conditions hold. -/
theorem exists_checked_iff :
    (∃ l, d.checked typeName m scheme = .ok l) ↔ d.FitsWord scheme ∧ m.Backs scheme ∧ d.HasEnds := by
  constructor
  · rintro ⟨l, hl⟩
    have hfits : d.FitsWord scheme := by
      by_contra hfits
      obtain ⟨hbreaks, htells⟩ := checked_of_not_fitsWord typeName m hfits
      by_cases hdigits : d.EndsBeyondDigits
      · simp [hl] at hbreaks
        exact hbreaks hdigits
      · exact ne_ok_of_tells (htells hdigits) l hl
    have hbacks : m.Backs scheme := by
      by_contra hbacks
      exact ne_ok_of_tells (tells_checked_of_not_backs hfits hbacks) l hl
    refine ⟨hfits, hbacks, ?_⟩
    by_contra hends
    exact ne_ok_of_tells (tells_checked_of_not_hasEnds hfits hbacks hends) l hl
  · rintro ⟨hfits, hbacks, hends⟩
    obtain ⟨l, hl, -⟩ : Gives (d.checked typeName m scheme) fun _ => True := gives_checked hfits hbacks hends
    exact ⟨l, hl⟩

end Directive

end Verdict

/-! ## Layouts -/

/-- A layout with which reading and writing cannot go wrong. -/
structure Layout.WellFormed (l : Layout Number) : Prop where
  /-- The largest code, moved to its place, is a word. -/
  mask_lt : ∃ mask word, l.mask = .ok mask ∧ l.place mask = .ok word ∧ word < 2 ^ 32
  labels_ne_nil : l.labels ≠ []
  isPresent_labels : l.field.isPresent = true → ∀ label ∈ l.labels, label.isPresent = true
  isSome_valueType? : l.valueType?.isSome = true
  /-- The ends of the range differ, and the largest code of a run of bits is one at least. -/
  ends_ne : ∃ lo hi : Float, l.range = (.float lo, .float hi) ∧ (lo == hi) = false
  one_le_mask : l.IsBitField → ∃ mask, l.mask = .ok mask ∧ 1 ≤ mask
  /-- So neither of the two divisors is zero. -/
  normalize_divides : ∀ v, normalizeIn l.range v ≠ .error .divisionByZero
  dequantize_divides : l.IsBitField → ∀ code, l.dequantize code ≠ .error .divisionByZero

/-! ### Divisors -/

namespace Number

theorem eq_tooLarge_of_floatOfInt {n : Int} {b : Breakdown} (h : floatOfInt n = .error b) : b = .tooLarge := by
  rw [floatOfInt, ite_eq_iff] at h
  rcases h with ⟨-, h⟩ | ⟨-, h⟩
  · exact (Except.error.inj h).symm
  · simp at h

theorem eq_tooLarge_of_toFloat {x : Number} {b : Breakdown} (h : x.toFloat = .error b) : b = .tooLarge := by
  cases x with
  | float x => simp [toFloat] at h
  | int n => exact eq_tooLarge_of_floatOfInt h

/-- An operation that is no division fails only where a whole number is too large. -/
theorem eq_tooLarge_of_combine {exact : Int → Int → Int} {rounded : Float → Float → Float} {x y : Number}
    {b : Breakdown} (h : combine exact rounded x y = .error b) : b = .tooLarge := by
  have hfloats : ∀ {x y : Number}, (do
      let a ← x.toFloat
      let c ← y.toFloat
      return float (rounded a c) : Except Breakdown Number) = .error b → b = .tooLarge := by
    intro x y h
    rcases bind_eq_error_iff.mp h with h | ⟨a, -, h⟩
    · exact eq_tooLarge_of_toFloat h
    · rcases bind_eq_error_iff.mp h with h | ⟨c, -, h⟩
      · exact eq_tooLarge_of_toFloat h
      · simp at h
  cases x with
  | float _ => exact hfloats h
  | int m =>
    cases y with
    | float _ => exact hfloats h
    | int n => simp [combine] at h

/-- Dividing by a floating-point number other than zero fails only where a whole number is too large. -/
theorem eq_tooLarge_of_div_float {x : Number} {y : Float} {b : Breakdown} (hy : (y == 0) = false)
    (h : div x (.float y) = .error b) : b = .tooLarge := by
  have hfloats : (do
      let a ← x.toFloat
      let c ← (float y).toFloat
      if c == 0 then .error .divisionByZero else return float (a / c) : Except Breakdown Number) = .error b := by
    cases x <;> exact h
  rcases bind_eq_error_iff.mp hfloats with h | ⟨a, -, h⟩
  · exact eq_tooLarge_of_toFloat h
  · simp [toFloat, hy] at h

/-- Dividing by a whole number other than zero fails only where the quotient is too large. -/
theorem eq_tooLarge_of_div_int {m n : Int} {b : Breakdown} (hn : n ≠ 0)
    (h : div (.int m) (.int n) = .error b) : b = .tooLarge := by
  have hquotient : divInt m n = .error b := by
    cases hdiv : divInt m n with
    | ok q => simp [div, hdiv] at h
    | error b' => simpa [div, hdiv] using h
  unfold divInt at hquotient
  rw [if_neg hn] at hquotient
  dsimp only at hquotient
  split at hquotient
  · exact (Except.error.inj hquotient).symm
  · simp at hquotient

end Number

namespace Layout

variable {l : Layout Number}

/-- The width of a range with two different ends divides. -/
theorem eq_tooLarge_of_normalizeIn {lo hi : Float} (hne : (lo == hi) = false) {v : Number} {b : Breakdown}
    (h : normalizeIn (Number.float lo, Number.float hi) v = .error b) : b = .tooLarge := by
  have hwidth : (hi - lo == 0) = false := Binary64.sub_ne_zero_of_ne (Binary64.beq_comm lo hi ▸ hne)
  rcases bind_eq_error_iff.mp h with h | ⟨distance, -, h⟩
  · exact Number.eq_tooLarge_of_combine h
  · exact Number.eq_tooLarge_of_div_float (x := distance) hwidth h

theorem IsBitField.one_le_mask (hl : l.IsBitField) : 1 ≤ 2 ^ l.bits - 1 := by
  have hbits : 2 ^ 1 ≤ 2 ^ l.bits := Nat.pow_le_pow_right (by decide) hl.one_le_bits
  omega

/-- The largest code of a run of bits divides. -/
theorem IsBitField.eq_tooLarge_of_dequantize (hl : l.IsBitField) {code : Int} {b : Breakdown}
    (h : l.dequantize code = .error b) : b = .tooLarge := by
  have hmask : ((2 ^ l.bits - 1 : Nat) : Int) ≠ 0 := by
    have hone := hl.one_le_mask
    omega
  unfold dequantize at h
  rw [hl.mask_eq, ok_bind] at h
  rcases bind_eq_error_iff.mp h with h | ⟨place, -, h⟩
  · exact Number.eq_tooLarge_of_div_int hmask h
  · rcases bind_eq_error_iff.mp h with h | ⟨width, -, h⟩
    · exact Number.eq_tooLarge_of_combine h
    · rcases bind_eq_error_iff.mp h with h | ⟨scaled, -, h⟩
      · exact Number.eq_tooLarge_of_combine h
      · exact Number.eq_tooLarge_of_combine h

/-! ### Masks and labels -/

/-- The largest code of a layout inside the word ends there. -/
theorem exists_mask_lt (hplace : 0 ≤ l.offset.toInt) (hwidth : 0 ≤ l.width.toInt)
    (hfits : l.offset.toInt + l.width.toInt ≤ wordBits) :
    ∃ mask word, l.mask = .ok mask ∧ l.place mask = .ok word ∧ word < 2 ^ 32 := by
  have hmemory : ∀ {places : Int}, places ≤ wordBits → places < memoryPlaces := fun hle =>
    Int.lt_of_le_of_lt hle (by decide)
  have hmask := mask_eq_of_width hwidth (hmemory (by omega))
  refine ⟨_, _, hmask, shiftUp_eq_ok hplace (hmemory (by omega)) _, ?_⟩
  have hends : l.start + l.bits ≤ 32 := by
    unfold start bits
    unfold wordBits at hfits
    omega
  have hword : (2 ^ l.bits - 1) * 2 ^ l.start < 2 ^ 32 :=
    calc (2 ^ l.bits - 1) * 2 ^ l.start
        < 2 ^ l.bits * 2 ^ l.start :=
          Nat.mul_lt_mul_of_pos_right (Nat.sub_lt Nat.one_le_two_pow Nat.one_pos) Nat.one_le_two_pow
      _ = 2 ^ (l.start + l.bits) := by rw [Nat.pow_add, Nat.mul_comm]
      _ ≤ 2 ^ 32 := Nat.pow_le_pow_right (by decide) hends
  exact_mod_cast hword

end Layout

namespace Directive

variable {d : Directive}

/-- The bits that a request gets lie inside the word. -/
theorem bits_within {site : Site} {scheme : Scheme} {bits : Whole × Whole}
    (h : d.bits site scheme = .ok bits) :
    0 ≤ bits.1.toInt ∧ 0 ≤ bits.2.toInt ∧ bits.1.toInt + bits.2.toInt ≤ wordBits := by
  cases hscheme : scheme.isBitField with
  | true =>
    obtain ⟨⟨hone, -⟩, ⟨hplace, hfits⟩, rfl⟩ := (bits_eq_ok_iff hscheme).mp h
    exact ⟨hplace, Int.le_trans (by decide) hone, hfits⟩
  | false =>
    unfold Directive.bits at h
    rw [hscheme, if_neg (by simp)] at h
    obtain rfl := Except.ok.inj h
    split <;> decide

end Directive

/-! ### Layouts of requests -/

/-- The layout of a request is well-formed. -/
theorem Layout.wellFormed_of_ofDirective {l : Layout Number} {typeName : Value} {m : Member} {d : Directive}
    (h : Layout.ofDirective typeName m d = .ok l) : l.WellFormed := by
  obtain ⟨scheme, bits, range, -, htaken, -, hends, heq⟩ := Layout.ofDirective_eq_ok_iff.mp h
  obtain ⟨lo, hi, hrange, hne⟩ := Directive.exists_of_ends_eq_ok hends
  have hlayout : l.range = (.float lo, .float hi) := by
    rw [heq]
    exact hrange
  exact {
    mask_lt := by
      obtain ⟨hplace, hwidth, hfits⟩ := Directive.bits_within htaken
      rw [heq]
      exact Layout.exists_mask_lt hplace hwidth hfits
    labels_ne_nil := by
      rw [heq]
      exact d.names_ne_nil m.name
    isPresent_labels := by
      rw [heq]
      exact d.isPresent_of_mem_names
    isSome_valueType? := Layout.isSome_valueType?_of_ofDirective h
    ends_ne := ⟨lo, hi, hlayout, hne⟩
    one_le_mask := fun hbits => ⟨_, hbits.mask_eq, hbits.one_le_mask⟩
    normalize_divides := fun v hzero => by
      rw [hlayout] at hzero
      exact absurd (Layout.eq_tooLarge_of_normalizeIn hne hzero) (by decide)
    dequantize_divides := fun hbits code hzero =>
      absurd (hbits.eq_tooLarge_of_dequantize hzero) (by decide) }

/-! ## Fresh requests -/

section Fresh

variable {typeName : Value} {m : Member} {d : Directive} {position : Int} {r : Resolver}

/-- What is given for a request whose layout is not remembered is what is made of the request. -/
theorem outcome_resolve_of_fresh (htype : typeName.IsText) (hname : m.name.IsText)
    (hfresh : r.find? ⟨typeName, m.name, position⟩ = none) :
    ((resolve typeName m d position).outcome r).1 = Layout.ofDirective typeName m d := by
  obtain ⟨_, htypeKey, -⟩ := htype.gives_asKey
  obtain ⟨_, hnameKey, -⟩ := hname.gives_asKey
  rw [resolve_eq, htypeKey, hnameKey]
  show ((lookupOrMake _ _).outcome r).1 = _
  rw [outcome_lookupOrMake, hfresh]
  cases Layout.ofDirective typeName m d <;> rfl

/-- A request whose layout is not remembered gets one exactly if it names a scheme, its bits are bits of the
word, the member can back the scheme and its range has two different ends. The first of these that does not
hold decides what is told, and what is handed out is well-formed. Bits outside the word cannot be told where
the number of the last one is too long to be written. -/
theorem resolve_fresh_iff (htype : typeName.IsText) (hname : m.name.IsText) (hscheme : d.scheme.IsTextOrNull)
    (hfresh : r.find? ⟨typeName, m.name, position⟩ = none) :
    let given := ((resolve typeName m d position).outcome r).1
    ((∃ l, given = .ok l)
        ↔ ∃ scheme, d.AsksFor scheme ∧ d.FitsWord scheme ∧ m.Backs scheme ∧ d.HasEnds)
      ∧ ((∀ scheme, ¬d.AsksFor scheme) → Tells given "E_UNKNOWN_SCHEME")
      ∧ (∀ scheme, d.AsksFor scheme →
        (¬d.FitsWord scheme →
          (d.BitsWritable → Tells given "E_BIT_RANGE")
            ∧ (d.EndsBeyondDigits → given = .error (.breakdown .wrongContent)))
        ∧ (d.FitsWord scheme → ¬m.Backs scheme → Tells given "E_UNRECOGNIZED_TYPE")
        ∧ (d.FitsWord scheme → m.Backs scheme → ¬d.HasEnds → Tells given "E_VALUE_RANGE"))
      ∧ ∀ l, given = .ok l → l.WellFormed := by
  intro given
  have hgiven : given = Layout.ofDirective typeName m d := outcome_resolve_of_fresh htype hname hfresh
  have hverdict : ∀ scheme, d.AsksFor scheme → given = d.checked typeName m scheme := fun scheme hasks =>
    hgiven.trans (Layout.ofDirective_of_asksFor hasks)
  refine ⟨⟨?accepted, ?accepts⟩, ?unknown, ?told, ?formed⟩
  case accepted =>
    rintro ⟨l, hl⟩
    have hknown : ¬∀ scheme, ¬d.AsksFor scheme := fun h =>
      ne_ok_of_tells (Layout.tells_ofDirective hscheme h) l (hgiven.symm.trans hl)
    obtain ⟨scheme, hasks⟩ := not_forall_not.mp hknown
    exact ⟨scheme, hasks, Directive.exists_checked_iff.mp ⟨l, (hverdict scheme hasks).symm.trans hl⟩⟩
  case accepts =>
    rintro ⟨scheme, hasks, hholds⟩
    rw [hverdict scheme hasks]
    exact Directive.exists_checked_iff.mpr hholds
  case unknown =>
    rw [hgiven]
    exact Layout.tells_ofDirective hscheme
  case told =>
    intro scheme hasks
    rw [hverdict scheme hasks]
    refine ⟨fun hfits => ?_, Directive.tells_checked_of_not_backs, Directive.tells_checked_of_not_hasEnds⟩
    obtain ⟨hbreaks, htells⟩ := Directive.checked_of_not_fitsWord typeName m hfits
    exact ⟨fun hwritable => htells hwritable.last, hbreaks⟩
  case formed =>
    rw [hgiven]
    exact fun l => Layout.wellFormed_of_ofDirective

/-- A request for the last bit of the word is fresh for an empty resolver, and gets a layout. -/
theorem resolve_last_bit :
    let d : Directive := { scheme := .text "Packed Uint", offset := 31, width := some 1 }
    ∃ l, ((resolve (.text "Probe") { name := .text "flags", type := "uint" } d 0).outcome {}).1 = .ok l := by
  intro d
  have hfits : d.FitsWord .packedUint := fun _ => ⟨1, rfl, by decide⟩
  have hends : d.HasEnds := fun _ h => by simp [d] at h
  exact (resolve_fresh_iff ⟨_, rfl⟩ ⟨_, rfl⟩ (Or.inr ⟨_, rfl⟩) rfl).1.mpr
    ⟨.packedUint, ⟨_, rfl, by decide⟩, hfits, by simp [Member.Backs], hends⟩

/-- Two bits that begin at the largest place that can be written do not fit the word, which is not told. -/
theorem resolve_breaks_beyond_digits :
    let d : Directive :=
      { scheme := .text "PackedUint", offset := .number ((10 ^ maxDigits : Nat) - 1), width := some 2 }
    d.AsksFor .packedUint ∧ ¬d.FitsWord .packedUint ∧ isWritable d.offset.toInt = true
      ∧ ((resolve (.text "Probe") { name := .text "flags", type := "uint" } d 0).outcome {}).1
        = .error (.breakdown .wrongContent) := by
  intro d
  have hasks : d.AsksFor .packedUint := ⟨_, rfl, by decide⟩
  have hwidth : d.width = some 2 := rfl
  have hplace : d.offset.toInt = (10 ^ maxDigits : Nat) - 1 := rfl
  have hword : 10 ^ 2 ≤ 10 ^ maxDigits := Nat.pow_le_pow_right (by decide) (by decide)
  clear_value d
  have hfits : ¬d.FitsWord .packedUint := by
    intro h
    obtain ⟨width, hgiven, hone, -, -, hends⟩ := h rfl
    rw [hplace, wordBits] at hends
    omega
  have hdigits : d.EndsBeyondDigits := by
    refine ⟨2, hwidth, by decide, by decide, ?_⟩
    have htwo : (2 : Whole).toInt = 2 := rfl
    rw [hplace, isWritable, htwo, decide_eq_false_iff_not]
    omega
  refine ⟨hasks, hfits, ?_, ?_⟩
  · rw [hplace, isWritable, decide_eq_true_iff]
    omega
  · rw [outcome_resolve_of_fresh ⟨_, rfl⟩ ⟨_, rfl⟩ rfl, Layout.ofDirective_of_asksFor hasks]
    exact (Directive.checked_of_not_fitsWord _ _ hfits).1 hdigits

end Fresh

end ShaderRecords

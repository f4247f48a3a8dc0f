/-
ShaderRecords.Proofs.Storage.WholeWord — stores into the whole word.

Two schemes give a value the whole word: three small numbers are packed into it, and a value that is not packed is
the word itself. The functions of the shader side assign the word in both cases.

On this side a store of small numbers is an assignment as well (`Layout.insert_of_smallFloats`). A store of a value
that is not packed goes the way of the bit fields: it clears the bits of the layout and adds the ones of the value.
But such a layout has no bits (`Layout.bits_eq_zero_of_noPacking`), so nothing is cleared, and the ones that the word
had before are still there (`Layout.insert_of_noPacking`). It is an assignment exactly if the value has those ones
itself (`whole_word_store_iff`).
-/
import ShaderRecords.Proofs.Include.BitFieldFunctions
import ShaderRecords.Proofs.Storage.Neighbours
import ShaderRecords.Proofs.Storage.SmallFloat

namespace ShaderRecords

/-- The ones of any word are among those of the largest one. -/
theorem or_largest {w : Nat} (hw : w < 2 ^ 32) : w ||| 2 ^ 32 - 1 = 2 ^ 32 - 1 := by
  refine Nat.eq_of_testBit_eq fun i => ?_
  rw [Nat.testBit_or, Nat.testBit_two_pow_sub_one]
  by_cases hi : i < 32
  · simp [hi]
  · have hhigh : w.testBit i = false := testBit_eq_false_of_le hw (Nat.not_lt.mp hi)
    simp [hi, hhigh]

namespace Layout

variable {l : Layout Number} {v bits : Value}

/-! ## Small numbers -/

/-- Small numbers are stored as a word. -/
theorem exists_code_of_smallFloats (hscheme : l.scheme = some .smallFloats) (hencode : l.encode v = .ok bits) :
    ∃ code : Nat, code < 2 ^ 32 ∧ bits = .int code := by
  unfold encode at hencode
  rw [hscheme] at hencode
  obtain ⟨parts, -, hencode⟩ := bind_eq_ok_iff.mp hencode
  obtain ⟨placed, -, hencode⟩ := bind_eq_ok_iff.mp hencode
  split at hencode
  next r g b => exact ⟨_, SmallFloat.pack_lt r g b, (Except.ok.inj hencode).symm⟩
  next => simp at hencode

/-- A store of small numbers does not look at the word. -/
theorem insert_of_smallFloats (hscheme : l.scheme = some .smallFloats) (stored v : Value) :
    l.insert stored v = l.encode v :=
  if_pos hscheme

/-! ## Values that are not packed -/

theorem encode_of_noPacking (hscheme : l.scheme = some .noPacking) (v : Value) : l.encode v = .ok v := by
  unfold encode
  rw [hscheme]

theorem decode_of_noPacking (hscheme : l.scheme = some .noPacking) (stored : Value) :
    l.decode stored = .ok stored := by
  unfold decode
  rw [hscheme]

/-- The layout of a value that is not packed has no bits. -/
theorem bits_eq_zero_of_noPacking (hmade : l.IsMade) (hscheme : l.scheme = some .noPacking) :
    l.offset = 0 ∧ l.width = 0 := by
  obtain ⟨typeName, m, d, hmade⟩ := hmade
  obtain ⟨scheme, taken, range, -, htaken, -, -, rfl⟩ := ofDirective_eq_ok_iff.mp hmade
  obtain rfl : scheme = .noPacking := Option.some.inj hscheme
  obtain rfl : (0, 0) = taken := Except.ok.inj htaken
  exact ⟨rfl, rfl⟩

/-- Where a layout has no bits, nothing of a word is cleared. -/
theorem cleared_of_noPacking (hmade : l.IsMade) (hscheme : l.scheme = some .noPacking) {w : Nat}
    (hw : w < 2 ^ 32) : l.cleared w = .ok w := by
  obtain ⟨hoffset, hwidth⟩ := bits_eq_zero_of_noPacking hmade hscheme
  have hmask : l.mask = .ok 0 := by
    rw [mask, hwidth]
    rfl
  have hnone : bitsAt w 0 0 = 0 := Nat.lt_one_iff.mp (bitsAt_lt w 0 0)
  have hplace : l.place (0 : Nat) = .ok 0 := by
    rw [place, hoffset]
    rfl
  rw [cleared, hmask, ok_bind, hplace, ok_bind, hoffset, hwidth, wordOf_of_lt hw]
  exact congrArg Except.ok (if_pos hnone)

/-- A store of a value that is not packed adds its ones to the word. -/
theorem insert_of_noPacking (hmade : l.IsMade) (hscheme : l.scheme = some .noPacking) {w : Nat}
    (hw : w < 2 ^ 32) (n : Nat) : l.insert (.int w) (.int n) = .ok (.int (w ||| n : Nat)) := by
  have hzero : l.cleared 0 = .ok 0 := cleared_of_noPacking hmade hscheme (w := 0) (by decide)
  rw [insert, if_neg (by simp [hscheme]), hzero, encode_of_noPacking hscheme]
  simp [Value.wholeNumber, cleared_of_noPacking hmade hscheme hw, orInt_natCast]

/-! ## Both schemes -/

/-- Whether the values of a layout take the whole word. -/
def TakesWord (l : Layout Number) : Prop :=
  l.scheme = some .smallFloats ∨ l.scheme = some .noPacking

/-- The word that a store of a code leaves of a word. -/
def left (l : Layout Number) (w code : Nat) : Nat :=
  if l.scheme = some .smallFloats then code else w ||| code

theorem left_eq_iff {w code : Nat} : l.left w code = code ↔ l.scheme = some .smallFloats ∨ w ||| code = code := by
  by_cases hscheme : l.scheme = some .smallFloats <;> simp [left, hscheme]

/-- Every word is left as the same one exactly if the word does not count or the code has all ones. -/
theorem left_eq_left_iff {code : Nat} (hcode : code < 2 ^ 32) :
    (∀ w w' : Nat, w < 2 ^ 32 → w' < 2 ^ 32 → l.left w code = l.left w' code)
      ↔ l.scheme = some .smallFloats ∨ code = 2 ^ 32 - 1 := by
  unfold left
  by_cases hscheme : l.scheme = some .smallFloats
  · simp [hscheme]
  · simp only [hscheme, if_false, false_or]
    constructor
    · -- zero is left as the code itself, and the largest word as itself
      intro hsame
      have hends := hsame 0 (2 ^ 32 - 1) (by decide) (by decide)
      rwa [Nat.zero_or, Nat.or_comm, or_largest hcode] at hends
    · rintro rfl w w' hw hw'
      rw [or_largest hw, or_largest hw']

/-- A value that takes the whole word is stored as a word, and what a store leaves of a word depends on its code
only. -/
theorem exists_code_of_takesWord (hmade : l.IsMade) (htakes : l.TakesWord) (hencode : l.encode v = .ok bits)
    (hplain : l.scheme = some .noPacking → ∃ n : Nat, n < 2 ^ 32 ∧ v = .int n) :
    ∃ code : Nat, code < 2 ^ 32 ∧ bits = .int code
      ∧ ∀ w : Nat, w < 2 ^ 32 → l.insert (.int w) v = .ok (.int (l.left w code)) := by
  rcases htakes with hscheme | hscheme
  · obtain ⟨code, hcode, rfl⟩ := exists_code_of_smallFloats hscheme hencode
    refine ⟨code, hcode, rfl, fun w _ => ?_⟩
    rw [insert_of_smallFloats hscheme, hencode, left, if_pos hscheme]
  · obtain ⟨n, hn, rfl⟩ := hplain hscheme
    rw [encode_of_noPacking hscheme] at hencode
    refine ⟨n, hn, (Except.ok.inj hencode).symm, fun w hw => ?_⟩
    rw [insert_of_noPacking hmade hscheme hw, left, if_neg (by simp [hscheme])]

/-- What is read of the word that is left is what is read of the code exactly if they are the same word. -/
theorem decode_left_iff (htakes : l.TakesWord) {w code : Nat} :
    l.decode (.int (l.left w code)) = l.decode (.int code) ↔ l.left w code = code := by
  constructor
  · intro hsame
    rcases htakes with hscheme | hscheme
    · exact if_pos hscheme
    · rw [decode_of_noPacking hscheme, decode_of_noPacking hscheme] at hsame
      simpa using hsame
  · intro hsame
    rw [hsame]

/-! ## The statement of the shader side -/

/-- The place of a component of the argument, which the statement for small numbers hands over: it does not look at
the word. -/
theorem exists_store_of_smallFloats {l : Layout Rat} (hscheme : l.scheme = some .smallFloats)
    (hends : l.range.1 ≠ l.range.2) (mode : WriteMode) :
    ∃ place, l.store mode = .ok (.assign (.call .packSmallFloats place))
      ∧ ∀ w t, place.eval w (.real t) = some (.real ((t - l.range.1) / (l.range.2 - l.range.1))) := by
  obtain ⟨place, hplace, -, heval⟩ := exists_placed hends
  refine ⟨place, ?_, heval⟩
  unfold store
  rw [hscheme, hplace]
  rfl

theorem store_of_noPacking {α : Type} [Arithmetic α] {l : Layout α} (hscheme : l.scheme = some .noPacking)
    (mode : WriteMode) : l.store mode = .ok (.assign .argument) := by
  unfold store
  rw [hscheme]

end Layout

section Members

variable {r : Resolver} {typeName : Value} {m : Member} {ls : List (Layout Number)} {l : Layout Number}

/-- When a store into a whole word replaces the word, for every layout of a member that takes the whole word, every
value that can be encoded, and every word.

The value is stored as a word, its code. The statement of the shader side assigns it: the argument itself, or what
three small numbers at the places of its components are packed into. A store of small numbers replaces the word as
well, but a store of a value that is not packed leaves the ones of both. So the word that is left, and what is read of
it, are those of the code exactly if the word has no one that the code has not, and they do not depend on the word
exactly if the code has all ones. -/
theorem whole_word_store_iff (hr : r.IsMade) (h : ((resolveMember typeName m).outcome r).1 = .ok ls)
    (hl : l ∈ ls) (htakes : l.TakesWord) {v bits : Value} (hencode : l.encode v = .ok bits)
    (hplain : l.scheme = some .noPacking → ∃ n : Nat, n < 2 ^ 32 ∧ v = .int n) :
    ∃ code : Nat, code < 2 ^ 32 ∧ bits = .int code
      ∧ (∀ w : Nat, w < 2 ^ 32 →
        l.insert (.int w) v
            = .ok (.int (if l.scheme = some .smallFloats then code else w ||| code : Nat))
          ∧ (l.insert (.int w) v = l.encode v ↔ l.scheme = some .smallFloats ∨ w ||| code = code)
          ∧ ((l.insert (.int w) v >>= l.decode) = (l.encode v >>= l.decode)
            ↔ l.scheme = some .smallFloats ∨ w ||| code = code))
      ∧ ((∀ w w' : Nat, w < 2 ^ 32 → w' < 2 ^ 32 → l.insert (.int w) v = l.insert (.int w') v)
        ↔ l.scheme = some .smallFloats ∨ code = 2 ^ 32 - 1)
      ∧ (∀ reading : Number → Rat, reading l.range.1 ≠ reading l.range.2 →
        (l.scheme = some .noPacking → (l.mapRange reading).store .set = .ok (.assign .argument))
          ∧ (l.scheme = some .smallFloats → ∃ place,
            (l.mapRange reading).store .set = .ok (.assign (.call .packSmallFloats place))
              ∧ ∀ w t, place.eval w (.real t) = some (.real
                ((t - reading l.range.1) / (reading l.range.2 - reading l.range.1))))) := by
  have hmade : l.IsMade := (keeps_isMade typeName m r hr).2 ls h l hl
  obtain ⟨code, hcode, rfl, hinsert⟩ := l.exists_code_of_takesWord hmade htakes hencode hplain
  refine ⟨code, hcode, rfl, ?_, ?_, ?_⟩
  · intro w hw
    rw [hinsert w hw, hencode]
    refine ⟨rfl, ?_, ?_⟩
    · rw [← Layout.left_eq_iff]
      simp
    · rw [ok_bind, ok_bind, Layout.decode_left_iff htakes, Layout.left_eq_iff]
  · rw [← Layout.left_eq_left_iff hcode]
    constructor
    · intro hsame w w' hw hw'
      have heq := hsame w w' hw hw'
      rw [hinsert w hw, hinsert w' hw'] at heq
      simpa using heq
    · intro hsame w w' hw hw'
      rw [hinsert w hw, hinsert w' hw', hsame w w' hw hw']
  · intro reading hends
    constructor
    · intro hscheme
      exact Layout.store_of_noPacking (l := l.mapRange reading) hscheme .set
    · intro hscheme
      exact Layout.exists_store_of_smallFloats (l := l.mapRange reading) hscheme hends .set

/-- A member whose values are stored as they are. -/
def plainMember : Member where
  name := .text "flags"
  type := "uint"
  packing := [{ scheme := .text "NoPacking" }]

/-- The layout of such a member: the word, with no bits of its own. -/
def plainLayout : Layout Number where
  field := .text "flags"
  fieldType := "uint"
  scheme := some .noPacking
  width := 0
  range := (.float 0, .float 1)
  labels := [.text "flags"]

theorem layouts_of_plainMember :
    ((resolveMember (.text "Light") plainMember).outcome {}).1 = .ok [plainLayout] := by rfl

/-- Three is stored over four: seven is left, as four is no part of three. -/
theorem whole_word_store_over_other_ones :
    ((resolveMember (.text "Light") plainMember).outcome {}).1 = .ok [plainLayout]
      ∧ plainLayout.encode (.int 3) = .ok (.int 3) ∧ plainLayout.insert (.int 4) (.int 3) = .ok (.int 7)
      ∧ plainLayout.insert (.int 4) (.int 3) ≠ plainLayout.encode (.int 3) := by
  have hencode : plainLayout.encode (.int 3) = .ok (.int 3) := rfl
  obtain ⟨code, -, hcode, hstore, -⟩ := whole_word_store_iff Resolver.isMade_empty layouts_of_plainMember
    (by simp) (Or.inr rfl) hencode fun _ => ⟨3, by decide, rfl⟩
  obtain rfl : 3 = code := by exact_mod_cast Value.int.inj hcode
  obtain ⟨hinsert, hsame, -⟩ := hstore 4 (by decide)
  refine ⟨layouts_of_plainMember, hencode, hinsert, ?_⟩
  intro heq
  rcases hsame.mp heq with hscheme | hones
  · simp [plainLayout] at hscheme
  · simp at hones

/-- A store of a value that takes the whole word does not always replace the word. -/
theorem whole_word_store_is_no_assignment :
    ¬∀ (typeName : Value) (m : Member) (ls : List (Layout Number)),
      ((resolveMember typeName m).outcome {}).1 = .ok ls → ∀ l ∈ ls, l.fieldType = "uint" → l.TakesWord →
        ∀ (w : Nat) (v bits : Value), w < 2 ^ 32 → l.encode v = .ok bits →
          (l.scheme = some .noPacking → ∃ n : Nat, n < 2 ^ 32 ∧ v = .int n) →
            l.insert (.int w) v = l.encode v := by
  intro hevery
  have hmade := (keeps_isMade _ _ _ Resolver.isMade_empty).2 _ layouts_of_plainMember plainLayout (by simp)
  have hassigned := hevery (.text "Light") plainMember [plainLayout] layouts_of_plainMember plainLayout (by simp)
    rfl (Or.inr rfl) 4 (.int 3) (.int 3) (by decide) rfl fun _ => ⟨3, by decide, rfl⟩
  have hstored := Layout.insert_of_noPacking hmade rfl (w := 4) (by decide) 3
  have hword := hstored.symm.trans hassigned
  rw [Layout.encode_of_noPacking rfl] at hword
  simp at hword

end Members

end ShaderRecords

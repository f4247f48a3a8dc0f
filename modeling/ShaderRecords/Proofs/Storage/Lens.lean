/-
ShaderRecords.Proofs.Storage.Lens — values in the bit fields of one word.

Values are assigned to bit fields that have no bit in common. What is stored in a field is a code: the low
bits of a whole number of any size and sign, or the quantized number of a range (`Layout.Stores`). One store
replaces the bits of the field by the code (`insert_eq_ok`) or adds them (`init_eq_ok`), so a run of stores
is a run of replacements (`replaceAll`), and all that is said about runs follows from what one replacement
does to a run of bits.

The main theorem is that the bit fields of a word are independent lenses: the order of stores does not
matter, what is stored is read back, the bits of no field are kept, and of two stores into one field the
second counts.
-/
import Mathlib.Data.List.Pairwise
import Mathlib.Data.List.Perm.Basic
import ShaderRecords.Proofs.Storage.BitField

namespace ShaderRecords

/-! ## One store -/

namespace Layout

variable {l : Layout Number} {v : Value} {w code : Nat}

/-- Whether a bit of the word belongs to a layout. -/
def Covers (l : Layout Number) (i : Nat) : Prop :=
  l.start ≤ i ∧ i < l.start + l.bits

/-- Whether a value is stored in a bit field as a code. A field of plain whole numbers takes any whole
number, by its low bits; a field with a range takes a number whose code it has bits for. -/
inductive Stores (l : Layout Number) : Value → Nat → Prop where
  | whole (hplain : l.normalized = false) (n : Int) :
    l.Stores (.int n) (n % (2 ^ l.bits : Nat)).toNat
  | fraction {v : Value} {x : Float} {code : Nat} (hnormalized : l.normalized = true)
    (hx : v.toFloat = .ok x) (hcode : l.quantize (.float x) = .ok (code : Int))
    (hlt : code < 2 ^ l.bits) : l.Stores v code

/-- The value that a code is read as. -/
def valueOf (l : Layout Number) (code : Nat) : Except Breakdown Value :=
  if l.normalized then Number.toValue <$> l.dequantize code else .ok (.int code)

/-- The code of a value that is stored is the code of what it means, and the field has bits for it. -/
theorem Stores.codeFor (hs : l.Stores v code) (h : l.IsBitField) :
    code < 2 ^ l.bits ∧ ∃ content, l.contentOf v = .ok content ∧ l.codeFor content = .ok (code : Int) := by
  cases hs with
  | whole hplain n =>
    have hpos : (0 : Int) < (2 ^ l.bits : Nat) := by exact_mod_cast Nat.two_pow_pos l.bits
    have hnonneg := Int.emod_nonneg n (Int.ne_of_gt hpos)
    have hlt := Int.emod_lt_of_pos n hpos
    refine ⟨by omega, .whole n, by simp [contentOf, hplain, Value.truncated, Value.toNumber,
      Value.number?, Number.truncate], ?_⟩
    rw [h.codeFor_whole, Int.toNat_of_nonneg hnonneg]
  | @fraction _ x _ hnormalized hx hcode hlt =>
    exact ⟨hlt, .fraction (.float x), by simp [contentOf, hnormalized, hx], hcode⟩

namespace IsBitField

/-- Inserting a value replaces the bits of the field by its code. -/
theorem insert_eq_ok (h : l.IsBitField) (hs : l.Stores v code) (hw : w < 2 ^ 32) :
    l.insert (.int w) v = .ok (.int (replaceBits w l.start l.bits code)) := by
  obtain ⟨-, content, hcontent, hcode⟩ := hs.codeFor h
  rw [h.insert_eq, hcontent, ok_bind, h.insertBits_eq hw hcode]
  rfl

/-- Initializing with a value adds the ones of its code. -/
theorem init_eq_ok (h : l.IsBitField) (hs : l.Stores v code) :
    l.init (.int w) v = .ok (.int (w ||| code * 2 ^ l.start : Nat)) := by
  obtain ⟨-, content, hcontent, hcode⟩ := hs.codeFor h
  rw [h.init_eq, hcontent, ok_bind, h.initBits_eq w hcode]
  rfl

/-- Decoding gives the value that the bits of the field are read as. -/
theorem decode_eq_valueOf (h : l.IsBitField) (w : Nat) :
    l.decode (.int w) = orBreak (l.valueOf (bitsAt w l.start l.bits)) := by
  rw [h.decode_eq, decodeBits, h.code_eq, ok_bind, valueOf]
  cases hnormalized : l.normalized with
  | true => cases hvalue : l.dequantize (bitsAt w l.start l.bits) <;> simp [FieldValue.toValue]
  | false => simp [FieldValue.toValue]

end IsBitField

end Layout

/-! ## Many stores -/

/-- A value for a bit field, with the code that it is stored as. -/
structure Assignment where
  layout : Layout Number
  value : Value
  code : Nat
  isBitField : layout.IsBitField
  stores : layout.Stores value code

namespace Assignment

variable {a b : Assignment} {fields order : List Assignment} {w : Nat}

/-- Whether two assignments are to fields without a common bit. -/
def Apart (a b : Assignment) : Prop :=
  ∀ i, ¬(a.layout.Covers i ∧ b.layout.Covers i)

theorem Apart.symm (h : a.Apart b) : b.Apart a :=
  fun i hi => h i ⟨hi.2, hi.1⟩

instance : Std.Symm Apart := ⟨fun _ _ => Apart.symm⟩

/-- Of two fields without a common bit one ends before the other begins. -/
theorem Apart.le_or_le (h : a.Apart b) :
    a.layout.start + a.layout.bits ≤ b.layout.start
      ∨ b.layout.start + b.layout.bits ≤ a.layout.start := by
  have ha := a.isBitField.one_le_bits
  have hb := b.isBitField.one_le_bits
  have hcommon := h (max a.layout.start b.layout.start)
  unfold Layout.Covers at hcommon
  omega

theorem code_lt (a : Assignment) : a.code < 2 ^ a.layout.bits :=
  (a.stores.codeFor a.isBitField).1

/-- A word with the bits of the field replaced by the code. -/
def replace (w : Nat) (a : Assignment) : Nat :=
  replaceBits w a.layout.start a.layout.bits a.code

theorem replace_lt (a : Assignment) (hw : w < 2 ^ 32) : replace w a < 2 ^ 32 :=
  replaceBits_lt hw a.code_lt a.isBitField.start_add_bits_le

/-- A word after assignments one after another. -/
def replaceAll (fields : List Assignment) (w : Nat) : Nat :=
  fields.foldl replace w

theorem replaceAll_cons (a : Assignment) (fields : List Assignment) (w : Nat) :
    replaceAll (a :: fields) w = replaceAll fields (replace w a) := rfl

/-- Words stay words. -/
theorem replaceAll_lt (fields : List Assignment) (hw : w < 2 ^ 32) : replaceAll fields w < 2 ^ 32 := by
  induction fields generalizing w with
  | nil => exact hw
  | cons a fields ih => exact ih (a.replace_lt hw)

/-- A bit that belongs to no field is kept. -/
theorem testBit_replaceAll {i : Nat} (h : ∀ a ∈ fields, ¬a.layout.Covers i) :
    (replaceAll fields w).testBit i = w.testBit i := by
  induction fields generalizing w with
  | nil => rfl
  | cons a fields ih =>
    rw [List.forall_mem_cons] at h
    rw [replaceAll_cons, ih h.2, replace, testBit_replaceBits a.code_lt]
    exact if_neg h.1

/-- A field that is apart from all that are assigned to keeps its bits. -/
theorem bitsAt_replaceAll_of_apart (h : ∀ b ∈ fields, b.Apart a) :
    bitsAt (replaceAll fields w) a.layout.start a.layout.bits
      = bitsAt w a.layout.start a.layout.bits := by
  induction fields generalizing w with
  | nil => rfl
  | cons b fields ih =>
    rw [List.forall_mem_cons] at h
    rw [replaceAll_cons, ih h.2, replace, bitsAt_replaceBits_of_apart b.code_lt h.1.le_or_le]

/-- After all assignments each field has its code. -/
theorem bitsAt_replaceAll_of_mem (hapart : fields.Pairwise Apart) (ha : a ∈ fields) :
    bitsAt (replaceAll fields w) a.layout.start a.layout.bits = a.code := by
  induction fields generalizing w with
  | nil => simp at ha
  | cons b fields ih =>
    rw [List.pairwise_cons] at hapart
    rw [replaceAll_cons]
    rcases List.mem_cons.mp ha with rfl | ha
    · -- what is assigned later keeps the bits of the first field
      rw [bitsAt_replaceAll_of_apart fun c hc => (hapart.1 c hc).symm, replace,
        bitsAt_replaceBits a.code_lt]
    · exact ih hapart.2 ha

/-- The order of assignments to fields without common bits does not matter. -/
theorem replaceAll_eq_of_perm (hapart : fields.Pairwise Apart) (h : order.Perm fields) (w : Nat) :
    replaceAll order w = replaceAll fields w := by
  refine h.foldl_eq' (fun a ha b hb z => ?_) w
  by_cases hab : a = b
  · rw [hab]
  · have hpair := hapart.forall (h.subset ha) (h.subset hb) hab
    exact replaceBits_comm a.code_lt b.code_lt hpair.le_or_le

/-- A word after stores one after another, each by the same function of layouts. -/
def storeAll (store : Layout Number → Value → Value → Except (Failure DirectiveError) Value)
    (fields : List Assignment) (word : Value) : Except (Failure DirectiveError) Value :=
  fields.foldlM (fun word a => store a.layout word a.value) word

/-- A run of insertions is a run of replacements. -/
theorem storeAll_insert_eq (fields : List Assignment) (hw : w < 2 ^ 32) :
    storeAll Layout.insert fields (.int w) = .ok (.int (replaceAll fields w)) := by
  induction fields generalizing w with
  | nil => rfl
  | cons a fields ih =>
    have hstep := a.isBitField.insert_eq_ok a.stores hw
    have hrest := ih (a.replace_lt hw)
    rw [storeAll, List.foldlM_cons, hstep, ok_bind]
    exact hrest

/-- A run of initializations is one of replacements too, in a word that has zeros in all fields: each adds
its code to zeros and leaves those of the fields to come. -/
theorem storeAll_init_eq (hapart : fields.Pairwise Apart)
    (hzero : ∀ a ∈ fields, bitsAt w a.layout.start a.layout.bits = 0) :
    storeAll Layout.init fields (.int w) = .ok (.int (replaceAll fields w)) := by
  induction fields generalizing w with
  | nil => rfl
  | cons a fields ih =>
    rw [List.pairwise_cons] at hapart
    rw [List.forall_mem_cons] at hzero
    have hstep : a.layout.init (.int w) a.value = .ok (.int (replace w a)) := by
      rw [a.isBitField.init_eq_ok a.stores, replace, replaceBits_of_zero hzero.1]
    have hrest := ih hapart.2 (w := replace w a) fun b hb => by
      rw [replace, bitsAt_replaceBits_of_apart a.code_lt (hapart.1 b hb).le_or_le]
      exact hzero.2 b hb
    rw [storeAll, List.foldlM_cons, hstep, ok_bind]
    exact hrest

end Assignment

/-- A run of bits is zero when each of its bits is. -/
theorem Layout.bitsAt_eq_zero {l : Layout Number} {w : Nat}
    (h : ∀ i, l.Covers i → w.testBit i = false) : bitsAt w l.start l.bits = 0 := by
  have hzero : bitsAt (0 : Nat) l.start l.bits = 0 := by
    rw [bitsAt_natCast, Nat.zero_div, Nat.zero_mod]
  rw [← hzero, bitsAt_eq_bitsAt_iff]
  intro i hlow hhigh
  rw [h i ⟨hlow, hhigh⟩, Nat.zero_testBit]

/-- Values stored in bit fields without common bits are independent of each other. There is one word that
insertion in any order gives; each field of it has the code of its value and is decoded to what that code
is read as; bits of no field are as before; of two insertions into one field the second counts; and
initialization in any order gives the same word if the fields had zeros. -/
theorem bit_fields_are_independent {fields : List Assignment}
    (hapart : fields.Pairwise Assignment.Apart) {w : Nat} (hw : w < 2 ^ 32) :
    ∃ stored : Nat, stored < 2 ^ 32
      ∧ (∀ order, order.Perm fields →
          Assignment.storeAll Layout.insert order (.int w) = .ok (.int stored))
      ∧ (∀ a ∈ fields, a.layout.code stored = .ok a.code
          ∧ a.layout.decode (.int stored) = orBreak (a.layout.valueOf a.code))
      ∧ (∀ i, (∀ a ∈ fields, ¬a.layout.Covers i) → stored.testBit i = w.testBit i)
      ∧ (∀ a ∈ fields, ∀ b : Assignment, b.layout = a.layout →
          ∃ last, Assignment.storeAll Layout.insert [a] (.int w) = .ok (.int last)
            ∧ Assignment.storeAll Layout.insert [b, a] (.int w) = .ok (.int last))
      ∧ ((∀ a ∈ fields, ∀ i, a.layout.Covers i → w.testBit i = false) →
          ∀ order, order.Perm fields →
            Assignment.storeAll Layout.init order (.int w) = .ok (.int stored)) := by
  refine ⟨Assignment.replaceAll fields w, Assignment.replaceAll_lt fields hw, ?_, ?_, ?_, ?_, ?_⟩
  · intro order horder
    rw [Assignment.storeAll_insert_eq order hw, Assignment.replaceAll_eq_of_perm hapart horder]
  · intro a ha
    rw [a.isBitField.code_eq, a.isBitField.decode_eq_valueOf,
      Assignment.bitsAt_replaceAll_of_mem hapart ha]
    exact ⟨rfl, rfl⟩
  · intro i hi
    exact Assignment.testBit_replaceAll hi
  · intro a ha b hb
    refine ⟨Assignment.replace w a, Assignment.storeAll_insert_eq [a] hw, ?_⟩
    have hcode := b.code_lt
    rw [Assignment.storeAll_insert_eq [b, a] hw, Assignment.replaceAll_cons, Assignment.replaceAll_cons,
      Assignment.replace, Assignment.replace, hb]
    rw [hb] at hcode
    rw [replaceBits_replaceBits hcode a.code_lt]
    rfl
  · intro hzero order horder
    have hzeros : ∀ a ∈ order, bitsAt w a.layout.start a.layout.bits = 0 := fun a ha =>
      Layout.bitsAt_eq_zero (hzero a (horder.subset ha))
    rw [Assignment.storeAll_init_eq (hapart.perm horder.symm Assignment.Apart.symm) hzeros,
      Assignment.replaceAll_eq_of_perm hapart horder]

/-- A negative number in the lowest bits and a number of a range in the bits next to them, in a word of
ones. -/
theorem bit_fields_are_independent_side_by_side :
    let low : Layout Number :=
      { field := .text "bits", fieldType := "uint", scheme := some .packedUint, offset := 0, width := 4
        range := (.float 0, .float 1), normalized := false }
    let high : Layout Number :=
      { field := .text "bits", fieldType := "uint", scheme := some .packedFloat, offset := 4, width := 28
        range := (.float (-1), .float 1) }
    ∃ stored : Nat, stored < 2 ^ 32
      ∧ (do high.insert (← low.insert (.int 4294967295) (.int (-3))) (.float 0.5)) = .ok (.int stored)
      ∧ (do low.insert (← high.insert (.int 4294967295) (.float 0.5)) (.int (-3))) = .ok (.int stored)
      ∧ low.code stored = .ok 13 ∧ high.code stored = .ok 201326591 := by
  intro low high
  have hlow : low.IsBitField := ⟨⟨.packedUint, rfl, rfl⟩, by decide, by decide, by decide⟩
  have hhigh : high.IsBitField := ⟨⟨.packedFloat, rfl, rfl⟩, by decide, by decide, by decide⟩
  have hquantize : high.quantize (.float 0.5) = .ok (201326591 : Nat) := by decide +kernel
  let a : Assignment := ⟨low, .int (-3), 13, hlow, .whole rfl (-3)⟩
  let b : Assignment := ⟨high, .float 0.5, 201326591, hhigh, .fraction rfl rfl hquantize (by decide)⟩
  have hapart : [a, b].Pairwise Assignment.Apart := by
    have hab : a.Apart b := fun i hi => by
      have hend : i < 4 := hi.1.2
      have hbegin : 4 ≤ i := hi.2.1
      omega
    simp [hab]
  obtain ⟨stored, hlt, hinsert, hcodes, -⟩ :=
    bit_fields_are_independent hapart (show 4294967295 < 2 ^ 32 by decide)
  refine ⟨stored, hlt, ?_, ?_, (hcodes a (by simp)).1, (hcodes b (by simp)).1⟩
  · have hrun := hinsert [a, b] (List.Perm.refl _)
    simp only [Assignment.storeAll, List.foldlM_cons, List.foldlM_nil, bind_pure] at hrun
    exact hrun
  · have hrun := hinsert [b, a] (List.Perm.swap a b [])
    simp only [Assignment.storeAll, List.foldlM_cons, List.foldlM_nil, bind_pure] at hrun
    exact hrun

end ShaderRecords

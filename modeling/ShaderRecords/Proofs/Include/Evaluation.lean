/-
ShaderRecords.Proofs.Include.Evaluation — what the expressions of the functions for packed values mean.

The shader language has unsigned words of 32 bits and numbers, and the numbers are exact here
(`ShaderValue`). The functions that are called have the meaning of their names (`Intrinsic.apply`):
`saturate` moves a number into the unit interval, `BitFieldExtract` reads a run of bits, `BitFieldInsert` takes
the bits of a mask from one word and all others from another, and `UnpackUIntToFloat` divides a run of bits
by its largest code. Operators on two words are those of words, all others convert words to numbers
(`Operator.apply`). An expression has no value where a division by zero, a number that is no word or an
operand of a wrong kind is met.

The value is that of the expression as a tree. A text has no trees, so `Formula.Delimited` says that
parentheses make up for it: beside an operator stand only names, literals, calls and parentheses.
-/
import Mathlib.Algebra.Order.Field.Rat
import Mathlib.Data.Rat.Floor
import ShaderRecords.Include.Formula
import ShaderRecords.Proofs.Number.Bits

namespace ShaderRecords

/-- A value of the shader language. -/
inductive ShaderValue where
  | word (w : BitVec 32)
  | real (x : Rat)
deriving DecidableEq

namespace ShaderValue

/-- The shader type of a value. -/
def type : ShaderValue → String
  | word _ => "uint"
  | real _ => "float"

/-- The number that a value is converted to. -/
def toRat : ShaderValue → Rat
  | word w => w.toNat
  | real x => x

/-- The word that a value is. -/
def word? : ShaderValue → Option (BitVec 32)
  | word w => some w
  | real _ => none

/-- The word that a whole number is, if it is one. -/
def ofInt? (n : Int) : Option ShaderValue :=
  if 0 ≤ n ∧ n < 2 ^ 32 then some (word (BitVec.ofNat 32 n.toNat)) else none

/-- A natural number below the number of words is a word. -/
theorem ofInt?_natCast {n : Nat} (h : n < 2 ^ 32) : ofInt? n = some (word (BitVec.ofNat 32 n)) := by
  have hword : (0 : Int) ≤ n ∧ (n : Int) < 2 ^ 32 := ⟨by omega, by exact_mod_cast h⟩
  rw [ofInt?, if_pos hword, Int.toNat_natCast]

end ShaderValue

/-! ## Functions and operators -/

/-- The word with ones in some lowest places. -/
def lowOnes (count : Nat) : BitVec 32 :=
  BitVec.ofNat 32 (2 ^ count - 1)

/-- The run of bits of a word. -/
def extracted (data : BitVec 32) (offset count : Nat) : BitVec 32 :=
  (data >>> offset) &&& lowOnes count

/-- The value of a call. -/
def Intrinsic.apply : Intrinsic → List ShaderValue → Option ShaderValue
  | .saturate, [.real x] => some (.real (min (max x 0) 1))
  | .bitFieldExtract, [.word data, .word offset, .word count] =>
    some (.word (extracted data offset.toNat count.toNat))
  | .bitFieldInsert, [.word mask, .word source, .word target] =>
    some (.word ((source &&& mask) ||| (target &&& ~~~mask)))
  | .unpackUIntToFloat, [.word data, .word offset, .word count] =>
    let largest := lowOnes count.toNat
    if largest = 0 then none
    else some (.real ((extracted data offset.toNat count.toNat).toNat / largest.toNat))
  | _, _ => none

/-- The value of an operator on two words. -/
def Operator.onWords (op : Operator) (x y : BitVec 32) : Option (BitVec 32) :=
  match op with
  | .times => some (x * y)
  | .divide => if y = 0 then none else some (x / y)
  | .plus => some (x + y)
  | .minus => some (x - y)
  | .and => some (x &&& y)
  | .shiftLeft => if y.toNat < 32 then some (x <<< y.toNat) else none

/-- The value of an operator on two numbers. -/
def Operator.onReals (op : Operator) (x y : Rat) : Option Rat :=
  match op with
  | .times => some (x * y)
  | .divide => if y = 0 then none else some (x / y)
  | .plus => some (x + y)
  | .minus => some (x - y)
  | .and | .shiftLeft => none

/-- The value of an operator: beside a number a word is converted. -/
def Operator.apply (op : Operator) : ShaderValue → ShaderValue → Option ShaderValue
  | .word x, .word y => .word <$> op.onWords x y
  | x, y => .real <$> op.onReals x.toRat y.toRat

/-- Beside a number every operator is one of numbers. -/
theorem Operator.apply_real (op : Operator) (x : ShaderValue) (y : Rat) :
    op.apply x (.real y) = .real <$> op.onReals x.toRat y := by
  cases x <;> rfl

theorem Operator.onReals_divide (x : Rat) {y : Rat} (hy : y ≠ 0) :
    Operator.divide.onReals x y = some (x / y) :=
  if_neg hy

/-! ## Expressions and statements -/

namespace Formula

/-- The value of an expression, with the values of the storage word and of the argument. -/
def eval (stored : BitVec 32) (argument : ShaderValue) : Formula Rat → Option ShaderValue
  | .stored => some (.word stored)
  | .argument => some argument
  | .constant x => some (.real x)
  | .whole n => ShaderValue.ofInt? n.toInt
  | .wholeFloat n => some (.real n)
  | .wholeUint n => ShaderValue.ofInt? n
  | .call f x => do f.apply [← x.eval stored argument]
  | .call3 f x y z => do
    f.apply [← x.eval stored argument, ← y.eval stored argument, ← z.eval stored argument]
  | .binary op x y => do op.apply (← x.eval stored argument) (← y.eval stored argument)
  | .group x => x.eval stored argument
  | .toUint x => do ShaderValue.ofInt? ⌊(← x.eval stored argument).toRat⌋

section Values

variable {w : BitVec 32} {x a b c : ShaderValue} {e e' e'' : Formula Rat}

@[simp] theorem eval_argument : (argument : Formula Rat).eval w x = some x := rfl

theorem eval_whole (n : Whole) : (whole n : Formula Rat).eval w x = ShaderValue.ofInt? n.toInt := rfl

/-- A call has the value of its function at the value of its argument. -/
theorem eval_call (f : Intrinsic) (he : e.eval w x = some a) : (call f e).eval w x = f.apply [a] := by
  show (do f.apply [← e.eval w x]) = f.apply [a]
  rw [he]
  rfl

/-- A call has the value of its function at the values of its arguments. -/
theorem eval_call3 (f : Intrinsic) (he : e.eval w x = some a) (he' : e'.eval w x = some b)
    (he'' : e''.eval w x = some c) : (call3 f e e' e'').eval w x = f.apply [a, b, c] := by
  show (do f.apply [← e.eval w x, ← e'.eval w x, ← e''.eval w x]) = f.apply [a, b, c]
  rw [he, he', he'']
  rfl

/-- An operator is applied to the values of its operands. -/
theorem eval_binary (op : Operator) (he : e.eval w x = some a) (he' : e'.eval w x = some b) :
    (binary op e e').eval w x = op.apply a b := by
  show (do op.apply (← e.eval w x) (← e'.eval w x)) = op.apply a b
  rw [he, he']
  rfl

@[simp] theorem eval_group (e : Formula Rat) : (group e).eval w x = e.eval w x := rfl

/-- A conversion drops what stands behind the point of a number. -/
theorem eval_toUint (he : e.eval w x = some a) :
    (toUint e).eval w x = ShaderValue.ofInt? ⌊a.toRat⌋ := by
  show (do ShaderValue.ofInt? ⌊(← e.eval w x).toRat⌋) = ShaderValue.ofInt? ⌊a.toRat⌋
  rw [he]
  rfl

end Values

variable {α : Type}

/-- Whether an expression is a name, a literal, a call or in parentheses. -/
def isAtom : Formula α → Bool
  | .binary .. | .toUint _ => false
  | _ => true

/-- Whether operators and conversions are applied to atoms only, so that no rule of precedence matters. -/
def Delimited : Formula α → Prop
  | .call _ x | .group x => x.Delimited
  | .call3 _ x y z => x.Delimited ∧ y.Delimited ∧ z.Delimited
  | .binary _ x y => (x.isAtom = true ∧ y.isAtom = true) ∧ x.Delimited ∧ y.Delimited
  | .toUint x => x.isAtom = true ∧ x.Delimited
  | _ => True

end Formula

namespace Store

/-- Whether the expression of a statement is delimited. -/
def Delimited {α : Type} : Store α → Prop
  | .assign x | .orAssign x => x.Delimited

/-- The storage word after a statement. -/
def run (stored : BitVec 32) (argument : ShaderValue) : Store Rat → Option (BitVec 32)
  | .assign x => do (← x.eval stored argument).word?
  | .orAssign x => do return stored ||| (← (← x.eval stored argument).word?)

end Store

/-! ## Runs of bits -/

/-- The ones of a mask, bit by bit. -/
theorem getLsbD_lowOnes (count i : Nat) :
    (lowOnes count).getLsbD i = (decide (i < 32) && decide (i < count)) := by
  rw [lowOnes, BitVec.getLsbD_ofNat, Nat.testBit_two_pow_sub_one]

/-- The largest code of some bits, as a number. -/
theorem toNat_lowOnes {count : Nat} (h : count ≤ 32) : (lowOnes count).toNat = 2 ^ count - 1 := by
  have hle : 2 ^ count ≤ 2 ^ 32 := Nat.pow_le_pow_right (by decide) h
  rw [lowOnes, BitVec.toNat_ofNat, Nat.mod_eq_of_lt (by omega)]

/-- An extracted run of bits is the one that is read from the word. -/
theorem toNat_extracted (data : BitVec 32) (offset count : Nat) (h : count ≤ 32) :
    (extracted data offset count).toNat = bitsAt data.toNat offset count := by
  rw [extracted, BitVec.toNat_and, BitVec.toNat_ushiftRight, toNat_lowOnes h,
    Nat.and_two_pow_sub_one_eq_mod, Nat.shiftRight_eq_div_pow, bitsAt_natCast]

/-- A code moved up inside the word is multiplied. -/
theorem toNat_shiftLeft_of_lt {code : BitVec 32} {offset count : Nat} (hcode : code.toNat < 2 ^ count)
    (h : offset + count ≤ 32) : (code <<< offset).toNat = code.toNat * 2 ^ offset := by
  have hlt : code.toNat * 2 ^ offset < 2 ^ 32 := by
    calc code.toNat * 2 ^ offset < 2 ^ count * 2 ^ offset :=
          Nat.mul_lt_mul_of_pos_right hcode (Nat.two_pow_pos offset)
      _ = 2 ^ (offset + count) := by rw [← Nat.pow_add, Nat.add_comm]
      _ ≤ 2 ^ 32 := Nat.pow_le_pow_right (by decide) h
  rw [BitVec.toNat_shiftLeft, Nat.shiftLeft_eq, Nat.mod_eq_of_lt hlt]

/-- Taking the bits of a mask from a code in its place replaces the run of bits. -/
theorem toNat_masked {target code : BitVec 32} {offset count : Nat} (hcode : code.toNat < 2 ^ count)
    (h : offset + count ≤ 32) :
    (((code <<< offset) &&& (lowOnes count <<< offset))
        ||| (target &&& ~~~(lowOnes count <<< offset))).toNat
      = replaceBits target.toNat offset count code.toNat := by
  refine Nat.eq_of_testBit_eq fun i => ?_
  rw [testBit_replaceBits hcode, BitVec.testBit_toNat, BitVec.testBit_toNat, BitVec.testBit_toNat]
  simp only [BitVec.getLsbD_or, BitVec.getLsbD_and, BitVec.getLsbD_not, BitVec.getLsbD_shiftLeft,
    getLsbD_lowOnes]
  by_cases hin : offset ≤ i ∧ i < offset + count
  · have hword : i < 32 := by omega
    have hplace : i - offset < 32 ∧ i - offset < count := by omega
    simp [hin, hword, hplace, Nat.not_lt.mpr hin.1]
  · rw [if_neg hin]
    by_cases hword : i < 32
    · by_cases hlow : i < offset
      · simp [hlow, hword]
      · have hhigh : ¬i - offset < count := by omega
        simp [hlow, hhigh, hword]
    · simp [hword, BitVec.getLsbD_of_ge target i (Nat.not_lt.mp hword)]

end ShaderRecords

/-
ShaderRecords.Document.Whole — whole numbers as documents give them.

Where a whole number is expected, `true` and `false` are accepted too and count as one and zero; they
keep their spelling wherever the number is written.
-/
import ShaderRecords.Document.Text

namespace ShaderRecords

/-- A whole number of a document. -/
inductive Whole where
  | number (n : Int)
  | flag (b : Bool)
deriving Repr, DecidableEq, Inhabited

namespace Whole

instance (n : Nat) : OfNat Whole n := ⟨number n⟩

instance : Coe Int Whole := ⟨number⟩

/-- The number that is meant. -/
def toInt : Whole → Int
  | number n => n
  | flag b => if b then 1 else 0

/-- The number as a document value. -/
def toValue : Whole → Value
  | number n => .int n
  | flag b => .bool b

/-- The number as it is spelled. -/
def display (w : Whole) : String :=
  w.toValue.display

/-- A number, or another in place of zero. -/
def orElse (w default : Whole) : Whole :=
  if w.toInt = 0 then default else w

@[simp] theorem toInt_number (n : Int) : (number n).toInt = n := rfl

@[simp] theorem toInt_ofNat (n : Nat) : (OfNat.ofNat n : Whole).toInt = n := rfl

end Whole

end ShaderRecords

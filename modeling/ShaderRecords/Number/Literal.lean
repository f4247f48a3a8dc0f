/-
ShaderRecords.Number.Literal — numbers read from texts.

* `NumberText.scan?` splits a text into sign, digits, fraction and exponent, and `NumberText.toFloat`
  is the floating-point number nearest to what they say.
* `readFloat?` and `readInt?` are the lenient readings: blanks around the number, digits of any
  script, an optional sign and single underscores between digits. Whole numbers have at most `maxDigits`
  digits.
-/
import ShaderRecords.Number.Decimal
import ShaderRecords.Number.Limit
import ShaderRecords.Number.Power
import ShaderRecords.Text.CharClass

namespace ShaderRecords

open scoped Power

/-- The digits `0` to `9`. -/
def isAsciiDigit (c : Char) : Bool :=
  '0' ≤ c && c ≤ '9'

/-- The number that a row of digits `0` to `9` stands for. -/
def digitsValue (digits : List Char) : Nat :=
  digits.foldl (fun n c => 10 * n + (c.toNat - '0'.toNat)) 0

/-- The parts of a written number. -/
structure NumberText where
  sign : Option Char
  whole : List Char
  fraction : Option (List Char)
  exponent : Option (Option Char × List Char)
deriving Repr

namespace NumberText

/-- A sign at the front of a text, and the rest. -/
def takeSign : List Char → Option Char × List Char
  | '+' :: rest => (some '+', rest)
  | '-' :: rest => (some '-', rest)
  | rest => (none, rest)

/-- The exponent at the front of a text, which must end there. -/
def scanExponent? : List Char → Option (Option (Option Char × List Char))
  | [] => some none
  | mark :: rest =>
    if mark = 'e' ∨ mark = 'E' then
      let (sign, digits) := takeSign rest
      if digits ≠ [] ∧ digits.all isAsciiDigit then some (some (sign, digits)) else none
    else none

/-- The parts of a number; every one but the sign may be empty or missing. -/
def scan? (s : List Char) : Option NumberText :=
  let (sign, s) := takeSign s
  let whole := s.takeWhile isAsciiDigit
  match s.dropWhile isAsciiDigit with
  | '.' :: rest => do
    let exponent ← scanExponent? (rest.dropWhile isAsciiDigit)
    return ⟨sign, whole, some (rest.takeWhile isAsciiDigit), exponent⟩
  | rest => do
    let exponent ← scanExponent? rest
    return ⟨sign, whole, none, exponent⟩

/-- Whether the number is below zero, or is a zero with a minus sign. -/
def isNegative (t : NumberText) : Bool :=
  t.sign == some '-'

/-- The exponent that is written. -/
def exponentValue (t : NumberText) : Int :=
  match t.exponent with
  | none => 0
  | some (sign, digits) => if sign = some '-' then -(digitsValue digits : Int) else digitsValue digits

/-- The nearest floating-point number. Beyond `10 ^ 310` it is infinite, below `10 ^ (-330)` zero. -/
def toFloat (t : NumberText) : Float :=
  let fraction := t.fraction.getD []
  let digits := digitsValue (t.whole ++ fraction)
  let exponent := t.exponentValue - fraction.length
  let lead := Decimal.leadingExponent ⟨digits, exponent⟩
  if digits = 0 ∨ lead < -330 then Binary64.nearest t.isNegative 0 1
  else if 310 < lead then Binary64.nearest t.isNegative (2 ^ (1024 : Nat)) 1
  else Binary64.nearest t.isNegative (digits * 10 ^ exponent.toNat) (10 ^ (-exponent).toNat)

end NumberText

/-- A digit of any script as one of `0` to `9`; other characters stay. -/
def plainDigit (c : Char) : Char :=
  match Text.digitValue? c with
  | some d => Char.ofNat ('0'.toNat + d)
  | none => c

/-- Drops the underscores that stand between two digits; others stay and spoil the number. -/
def dropSeparators : List Char → List Char
  | [] => []
  | [c] => [c]
  | [c, d] => [c, d]
  | c :: d :: e :: rest =>
    if isAsciiDigit c ∧ d = '_' ∧ isAsciiDigit e then c :: dropSeparators (e :: rest)
    else c :: dropSeparators (d :: e :: rest)

/-- White space that may stand around a number: all but the four information separators of ASCII. -/
def isOuterBlank (c : Char) : Bool :=
  Text.isBlank c && !('\x1c' ≤ c && c ≤ '\x1f')

/-- A text prepared for reading a number. -/
def numberChars (s : String) : List Char :=
  dropSeparators ((Text.trimBy isOuterBlank s.toList).map plainDigit)

/-- An ASCII letter in lower case. -/
def asciiLower (c : Char) : Char :=
  if 'A' ≤ c ∧ c ≤ 'Z' then Char.ofNat (c.toNat + 32) else c

/-- The floating-point number a text stands for. -/
def readFloat? (s : String) : Option Float :=
  let chars := numberChars s
  let (sign, body) := NumberText.takeSign chars
  let negative := sign == some '-'
  let word := String.ofList (body.map asciiLower)
  if word = "inf" ∨ word = "infinity" then some (Binary64.nearest negative (2 ^ (1024 : Nat)) 1)
  else if word = "nan" then some (0.0 / 0.0)
  else do
    let t ← NumberText.scan? chars
    if t.whole.isEmpty && (t.fraction.getD []).isEmpty then none
    else return t.toFloat

/-- The whole number a text stands for. -/
def readInt? (s : String) : Option Int :=
  let (sign, digits) := NumberText.takeSign (numberChars s)
  if digits ≠ [] ∧ digits.all isAsciiDigit ∧ digits.length ≤ maxDigits then
    let n : Int := digitsValue digits
    some (if sign = some '-' then -n else n)
  else none

end ShaderRecords

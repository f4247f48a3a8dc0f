/-
ShaderRecords.Number.Decimal — decimal texts of floating-point numbers.

* `Decimal.shortest` has the fewest digits that read back as the same floating-point number, and of
  those with that many digits the ones nearest to it.
* `Decimal.significant` rounds a number to a given count of digits, a half to the even neighbour.
* `Decimal.write` lays the digits out as a `DecimalStyle` says: positional for moderate powers of ten,
  with an exponent of at least two digits otherwise.
-/
import ShaderRecords.Number.Binary64
import ShaderRecords.Number.Power

namespace ShaderRecords

open scoped Power

/-- The number `digits · 10 ^ exponent`. -/
structure Decimal where
  digits : Nat
  exponent : Int
deriving Repr, DecidableEq

namespace Decimal

/-- The count of decimal digits of a number; zero has one. -/
def digitCount (n : Nat) : Nat :=
  (Nat.toDigits 10 n).length

/-- Moves `fuel` zeros at most from the end of the digits into the exponent. -/
def trim : Nat → Decimal → Decimal
  | 0, d => d
  | fuel + 1, d =>
    if d.digits % 10 = 0 ∧ d.digits ≠ 0 then trim fuel ⟨d.digits / 10, d.exponent + 1⟩ else d

/-- The same number without zeros at the end of its digits; zero is `0 · 10 ^ 0`. -/
def normal (d : Decimal) : Decimal :=
  if d.digits = 0 then ⟨0, 0⟩ else trim (digitCount d.digits) d

/-- `10 ^ k` as a ratio. -/
def powerOfTen (k : Int) : Nat × Nat :=
  (10 ^ k.toNat, 10 ^ (-k).toNat)

/-- The `k` for which `10 ^ (k - 1) ≤ num / den < 10 ^ k`, for a positive ratio. -/
def magnitude (num den : Nat) : Int :=
  let k : Int := (digitCount num : Int) - (digitCount den : Int)
  let (p, q) := powerOfTen k
  if p * den ≤ num * q then k + 1 else k

/-- The exponent of the first digit. -/
def leadingExponent (d : Decimal) : Int :=
  d.exponent + digitCount d.digits - 1

/-- A ratio rounded to `n` significant digits. -/
def significant (n num den : Nat) : Decimal :=
  if num = 0 then ⟨0, 0⟩ else
    let unit := magnitude num den - n
    let (p, q) := powerOfTen unit
    normal ⟨Binary64.roundHalfEven (num * q) (den * p), unit⟩

/-- The ratios that read back as one floating-point number: those between `low / den` and
`high / den`, the ends included for an even mantissa. -/
structure Interval where
  low : Nat
  middle : Nat
  high : Nat
  den : Nat
  closed : Bool
deriving Repr

namespace Interval

/-- The interval around `mantissa · 2 ^ exponent`. Below a power of two the gap is half as wide, unless
the numbers there have the smallest exponent already. -/
def around (mantissa : Nat) (exponent : Int) : Interval :=
  let narrow := mantissa = 2 ^ (52 : Nat) ∧ exponent > -1074
  let scale := 2 ^ (exponent - 2).toNat
  { low := (4 * mantissa - if narrow then 1 else 2) * scale
    middle := 4 * mantissa * scale
    high := (4 * mantissa + 2) * scale
    den := 2 ^ (2 - exponent).toNat
    closed := mantissa % 2 = 0 }

/-- Whether the ratio `num / den` lies in the interval. -/
def holds (i : Interval) (num den : Nat) : Bool :=
  let below := i.low * den
  let above := i.high * den
  let here := num * i.den
  if i.closed then below ≤ here && here ≤ above else below < here && here < above

/-- The distance of `num / den` from the middle, in units of `1 / (den · i.den)`. -/
def distance (i : Interval) (num den : Nat) : Nat :=
  Int.natAbs ((num * i.den : Nat) - (i.middle * den : Nat) : Int)

/-- The digits on the grid of `n`-digit numbers that lie in the interval, nearest to its middle. -/
def onGrid? (i : Interval) (n : Nat) : Option Decimal :=
  let unit := magnitude i.middle i.den - n
  let (p, q) := powerOfTen unit
  let below := i.middle * q / (i.den * p)
  let inside (d : Nat) : Bool := i.holds (d * p) q
  match inside below, inside (below + 1) with
  | true, true =>
    let left := i.distance (below * p) q
    let right := i.distance ((below + 1) * p) q
    if left < right ∨ (left = right ∧ below % 2 = 0) then some ⟨below, unit⟩
    else some ⟨below + 1, unit⟩
  | true, false => some ⟨below, unit⟩
  | false, true => some ⟨below + 1, unit⟩
  | false, false => none

end Interval

/-- The shortest digits that read back as `mantissa · 2 ^ exponent`. Seventeen always do. -/
def shortest (mantissa : Nat) (exponent : Int) : Decimal :=
  if mantissa = 0 then ⟨0, 0⟩ else
    let i := Interval.around mantissa exponent
    match (List.range' 1 17).findSome? i.onGrid? with
    | some d => normal d
    | none => significant 17 i.middle i.den

end Decimal

/-- How a decimal number is laid out. -/
structure DecimalStyle where
  /-- The least exponent of a first digit that is written positionally. -/
  positionalFrom : Int := -4
  /-- The least exponent above those that is not. -/
  positionalBelow : Int
  /-- Whether a whole number in positional form ends in `.0`. -/
  pointZero : Bool
deriving Repr

namespace Decimal

/-- The exponent part: a mark, a sign and at least two digits. -/
def exponentText (k : Int) : List Char :=
  let digits := Nat.toDigits 10 k.natAbs
  'e' :: (if k < 0 then '-' else '+') :: (if digits.length < 2 then '0' :: digits else digits)

/-- A point and the digits after it, unless there are none. -/
def fractionText (digits : List Char) : List Char :=
  if digits.isEmpty then [] else '.' :: digits

/-- The text of a decimal number. -/
def write (style : DecimalStyle) (d : Decimal) : List Char :=
  let digits := Nat.toDigits 10 d.digits
  let lead := d.leadingExponent
  if style.positionalFrom ≤ lead ∧ lead < style.positionalBelow then
    if lead < 0 then
      '0' :: '.' :: (List.replicate (-lead - 1).toNat '0' ++ digits)
    else
      let whole := lead.toNat + 1
      let before := digits.take whole ++ List.replicate (whole - digits.length) '0'
      let after := digits.drop whole
      if after.isEmpty ∧ style.pointZero then before ++ ['.', '0'] else before ++ fractionText after
  else
    digits.take 1 ++ fractionText (digits.drop 1) ++ exponentText lead

end Decimal

namespace Binary64

/-- The text of a floating-point number whose digits are chosen by `digits`. -/
def writeWith (style : DecimalStyle) (digits : Nat → Int → Decimal) : Binary64 → String
  | nan => "nan"
  | infinite negative => if negative then "-inf" else "inf"
  | finite negative m e =>
    let body := (digits m e).write style
    String.ofList (if negative then '-' :: body else body)

/-- The text that reads back as the same number: positional below `10 ^ 16`. -/
def shortestText (x : Float) : String :=
  (ofFloat x).writeWith { positionalBelow := 16, pointZero := true } Decimal.shortest

/-- A text with at most `n` significant digits: positional below `10 ^ n`. -/
def significantText (n : Nat) (x : Float) : String :=
  (ofFloat x).writeWith { positionalBelow := n, pointZero := false } fun m e =>
    Decimal.significant n (m * 2 ^ e.toNat) (2 ^ (-e).toNat)

end Binary64

end ShaderRecords

/-
ShaderRecords.Text.CharClass — which class a character belongs to.

The classes are those of the Unicode character database: letters, decimal digits with their values,
blanks, characters of words and printable characters.
-/
import ShaderRecords.Text.ClassTable
import ShaderRecords.Text.PrintableTable

namespace ShaderRecords.Text

/-- Whether a code point lies in one of the spans. -/
def inSpans (spans : Array Span) (code : Nat) : Bool :=
  spans.any fun s => s.first ≤ code && code ≤ s.last

/-- Letters of any script. -/
def isLetter (c : Char) : Bool :=
  inSpans letterSpans c.toNat

/-- The value of a decimal digit of any script. -/
def digitValue? (c : Char) : Option Nat :=
  if '0' ≤ c ∧ c ≤ '9' then some (c.toNat - '0'.toNat) else
    (decimalZeros.find? fun first => first ≤ c.toNat && c.toNat ≤ first + 9).map (c.toNat - ·)

/-- Decimal digits of any script. -/
def isDigit (c : Char) : Bool :=
  (digitValue? c).isSome

/-- White space of any kind. -/
def isBlank (c : Char) : Bool :=
  inSpans blankSpans c.toNat

/-- Characters of words: letters, characters with a numeric value and the underscore. -/
def isWord (c : Char) : Bool :=
  c == '_' || isLetter c || inSpans numericSpans c.toNat

/-- Characters that a quoted text shows as they are. -/
def isPrintable (c : Char) : Bool :=
  inSpans printableSpans c.toNat

/-- A text without the characters of a class at its two ends. -/
def trimBy (outer : Char → Bool) (s : List Char) : List Char :=
  ((s.dropWhile outer).reverse.dropWhile outer).reverse

end ShaderRecords.Text

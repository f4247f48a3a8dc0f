/-
ShaderRecords.Storage.Codec — what the functions for packed values compute.

* `Layout.encode` is the word, already shifted into place, that a value is stored as.
* `Layout.decode` is the value that a word holds.
* `Layout.insert` replaces the bits of a layout in a word, `Layout.init` adds them to a word that has
  zeros there.

Values of documents come in last. What is done to bits (`Layout.code`, `Layout.cleared`) and how a value of
a range becomes a code and back (`Layout.quantize`, `Layout.dequantize`) is written over any `Arithmetic`.
-/
import ShaderRecords.Description.Reader
import ShaderRecords.Storage.Error
import ShaderRecords.Storage.SmallFloat

namespace ShaderRecords

section Quantization

variable {α : Type} [Arithmetic α]

open Arithmetic

/-- The place of a value in a range: zero at its first end, one at its second. -/
def normalizeIn (range : α × α) (v : α) : Except Breakdown α := do
  div (← sub v range.1) (← sub range.2 range.1)

/-- The value at a place of a range. -/
def denormalizeIn (range : α × α) (t : α) : Except Breakdown α := do
  add (← mul t (← sub range.2 range.1)) range.1

/-- The code of a place, `mask` being the code of one; places outside move to the nearer end. -/
def codeOf (mask : Nat) (place : α) : Except Breakdown Int := do
  floor (← mul (clampUnit place) (ofInt mask))

namespace Layout

/-- The code of a value. -/
def quantize (l : Layout α) (v : α) : Except Breakdown Int := do
  let place ← normalizeIn l.range v
  codeOf (← l.mask) place

/-- The value that a code stands for. -/
def dequantize (l : Layout α) (code : Int) : Except Breakdown α := do
  denormalizeIn l.range (← div (ofInt code) (ofInt (← l.mask)))

end Layout

end Quantization

namespace Layout

variable {α : Type} (l : Layout α)

/-- A code moved up to the place of a layout. -/
def place (code : Int) : Except Breakdown Int :=
  shiftUp code l.offset.toInt

/-- The bits, already in place, that a plain whole number is stored as: its low ones. -/
def plainBits (n : Int) : Except Breakdown Int := do
  l.place (n % ((← l.mask) + 1 : Nat))

/-- The bits, already in place, that a value of the range is stored as. -/
def fractionBits [Arithmetic α] (v : α) : Except Breakdown Int := do
  l.place (← l.quantize v)

/-- The code of a layout in a word; a negative place makes no sense. -/
def code (word : Int) : Except Breakdown Nat := do
  if l.offset.toInt < 0 then throw .wrongContent
  let _ ← l.mask
  return bitsAt word l.offset.toInt.toNat l.width.toInt.toNat

/-- A word with zeros in the place of a layout. -/
def cleared (word : Int) : Except Breakdown Nat := do
  let _ ← l.place (← l.mask)
  return clearBits (wordOf word) l.offset.toInt.toNat l.width.toInt.toNat

end Layout

namespace Value

/-- The whole number a value is meant as when it is stored. -/
def truncated : Value → Except Breakdown Int
  | text s =>
    match readInt? s with
    | some n => .ok n
    | none => .error .wrongContent
  | v => do (← v.toNumber).truncate

/-- The whole number that a value is. -/
def wholeNumber : Value → Except Breakdown Int
  | int n => .ok n
  | bool b => .ok (if b then 1 else 0)
  | _ => .error .wrongKind

end Value

namespace Layout

variable (l : Layout Number)

/-- The word, already in place, that a value is stored as. -/
def encode (v : Value) : Except (Failure DirectiveError) Value :=
  match l.scheme with
  | some .smallFloats => do
    let parts ← orBreak v.elements
    let placed ← parts.mapM fun part => orBreak do normalizeIn l.range (← part.toNumber)
    match placed with
    | [r, g, b] => return .int (SmallFloat.pack r g b)
    | _ => throw (.breakdown .wrongContent)
  | some .noPacking => .ok v
  | none => refuse (.cannotEncode l.field)
  | some _ => orBreak do
    if l.normalized then return .int (← l.fractionBits (.float (← v.toFloat)))
    else return .int (← l.plainBits (← v.truncated))

/-- The value that a word holds. -/
def decode (stored : Value) : Except (Failure DirectiveError) Value :=
  match l.scheme with
  | some .smallFloats => orBreak do
    let (r, g, b) := SmallFloat.unpack (← stored.wholeNumber)
    let parts ← [r, g, b].mapM fun part => denormalizeIn l.range (.float part)
    return .list (parts.map Number.toValue)
  | some .noPacking => .ok stored
  | none => refuse (.cannotDecode l.field)
  | some _ => orBreak do
    let code ← l.code (← stored.wholeNumber)
    if l.normalized then return (← l.dequantize code).toValue
    else return .int code

/-- A word with the bits of a layout replaced by those of a value. Three small numbers take the whole
word. -/
def insert (stored v : Value) : Except (Failure DirectiveError) Value :=
  if l.scheme = some .smallFloats then l.encode v
  else do
    let _ ← orBreak (l.cleared 0)
    let cleared ← orBreak (l.cleared (← stored.wholeNumber))
    let bits ← orBreak (← l.encode v).wholeNumber
    return .int (orInt cleared bits)

/-- A word with the bits of a value added; two truth values give a truth value. Three small numbers take
the whole word. -/
def init (stored v : Value) : Except (Failure DirectiveError) Value :=
  if l.scheme = some .smallFloats then l.encode v
  else do
    let bits ← l.encode v
    match stored, bits with
    | .bool a, .bool b => return .bool (a || b)
    | _, _ => orBreak do return .int (orInt (← stored.wholeNumber) (← bits.wholeNumber))

end Layout

end ShaderRecords

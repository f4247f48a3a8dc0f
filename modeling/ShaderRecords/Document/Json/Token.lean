/-
ShaderRecords.Document.Json.Token — JSON text cut into tokens.

The cutter is a machine that takes one character at a time (`Lexer.step?`). It stops at the first
character that no JSON text can have there. Words are read when they end: names of constants, and
numbers, where a point or an exponent makes the number a fractional one.
-/
import ShaderRecords.Document.Value
import ShaderRecords.Number.Literal

namespace ShaderRecords.Json

/-- A token of JSON text. -/
inductive Token where
  | openList
  | closeList
  | openMap
  | closeMap
  | comma
  | colon
  | scalar (v : Value)
deriving Inhabited

/-- What the cutter is in the middle of; pieces read so far are held last character first. -/
inductive Mode where
  | idle
  | word (chars : List Char)
  /-- Inside a text; `high` is the first half of a surrogate pair that has just been read. -/
  | text (chars : List Char) (high : Option Nat)
  | escape (chars : List Char) (high : Option Nat)
  /-- Inside `\u`, with the digits still to come. -/
  | code (chars : List Char) (high : Option Nat) (value left : Nat)

/-- A cutter with the tokens cut so far, the last one first. -/
structure Lexer where
  mode : Mode := .idle
  tokens : List Token := []

/-- The number a word stands for. -/
def readNumber? (word : List Char) : Option Value := do
  let t ← NumberText.scan? word
  let leadingZero := t.whole.head? == some '0' && t.whole.length > 1
  if t.sign == some '+' || t.whole.isEmpty || leadingZero || t.fraction == some [] then none
  else if t.fraction.isNone && t.exponent.isNone then
    let n : Int := digitsValue t.whole
    return .int (if t.isNegative then -n else n)
  else return .float t.toFloat

/-- The value a word stands for. -/
def readWord? (word : List Char) : Option Value :=
  match String.ofList word with
  | "null" => some .null
  | "true" => some (.bool true)
  | "false" => some (.bool false)
  | "NaN" => some (.float (0.0 / 0.0))
  | "Infinity" => some (.float (1.0 / 0.0))
  | "-Infinity" => some (.float (-1.0 / 0.0))
  | _ => readNumber? word

/-- The value of a hexadecimal digit. -/
def hexValue? (c : Char) : Option Nat :=
  if '0' ≤ c ∧ c ≤ '9' then some (c.toNat - '0'.toNat)
  else if 'a' ≤ c ∧ c ≤ 'f' then some (c.toNat - 'a'.toNat + 10)
  else if 'A' ≤ c ∧ c ≤ 'F' then some (c.toNat - 'A'.toNat + 10)
  else none

/-- The characters of a text after a first half of a surrogate pair has been left alone. -/
def settle (chars : List Char) : Option Nat → List Char
  | none => chars
  | some _ => '\uFFFD' :: chars

/-- The mode after a complete `\u` escape: two halves of a surrogate pair make one character. -/
def afterCode (chars : List Char) (high : Option Nat) (code : Nat) : Mode :=
  if 0xD800 ≤ code ∧ code < 0xDC00 then .text (settle chars high) (some code)
  else if 0xDC00 ≤ code ∧ code < 0xE000 then
    match high with
    | some h => .text (Char.ofNat (0x10000 + (h - 0xD800) * 0x400 + (code - 0xDC00)) :: chars) none
    | none => .text ('\uFFFD' :: chars) none
  else .text (Char.ofNat code :: settle chars high) none

/-- The character that a letter after a backslash stands for. -/
def escapeChar? : Char → Option Char
  | '"' => some '"'
  | '\\' => some '\\'
  | '/' => some '/'
  | 'b' => some '\x08'
  | 'f' => some '\x0c'
  | 'n' => some '\n'
  | 'r' => some '\r'
  | 't' => some '\t'
  | _ => none

namespace Lexer

/-- The step outside texts and words. -/
def start? (tokens : List Token) (c : Char) : Option Lexer :=
  match c with
  | ' ' | '\t' | '\n' | '\r' => some ⟨.idle, tokens⟩
  | '[' => some ⟨.idle, .openList :: tokens⟩
  | ']' => some ⟨.idle, .closeList :: tokens⟩
  | '\x7b' => some ⟨.idle, .openMap :: tokens⟩
  | '\x7d' => some ⟨.idle, .closeMap :: tokens⟩
  | ',' => some ⟨.idle, .comma :: tokens⟩
  | ':' => some ⟨.idle, .colon :: tokens⟩
  | '"' => some ⟨.text [] none, tokens⟩
  | c => some ⟨.word [c], tokens⟩

/-- Whether a character ends a word. -/
def endsWord (c : Char) : Bool :=
  c ∈ [' ', '\t', '\n', '\r', '[', ']', '\x7b', '\x7d', ',', ':', '"']

/-- One step of the cutter. -/
def step? (l : Lexer) (c : Char) : Option Lexer :=
  match l.mode with
  | .idle => start? l.tokens c
  | .word chars =>
    if endsWord c then do
      let v ← readWord? chars.reverse
      start? (.scalar v :: l.tokens) c
    else some ⟨.word (c :: chars), l.tokens⟩
  | .text chars high =>
    if c = '"' then
      some ⟨.idle, .scalar (.text (String.ofList (settle chars high).reverse)) :: l.tokens⟩
    else if c = '\\' then some ⟨.escape chars high, l.tokens⟩
    else if c.toNat < 0x20 then none
    else some ⟨.text (c :: settle chars high) none, l.tokens⟩
  | .escape chars high =>
    if c = 'u' then some ⟨.code chars high 0 4, l.tokens⟩
    else do
      let e ← escapeChar? c
      return ⟨.text (e :: settle chars high) none, l.tokens⟩
  | .code chars high value left => do
    let d ← hexValue? c
    let value := value * 16 + d
    if left ≤ 1 then return ⟨afterCode chars high value, l.tokens⟩
    else return ⟨.code chars high value (left - 1), l.tokens⟩

/-- The tokens of a text. -/
def tokens? (s : List Char) : Option (List Token) := do
  let l ← (s ++ ['\n']).foldlM step? {}
  match l.mode with
  | .idle => return l.tokens.reverse
  | _ => none

end Lexer

end ShaderRecords.Json

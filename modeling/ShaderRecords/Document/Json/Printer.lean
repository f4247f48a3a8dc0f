/-
ShaderRecords.Document.Json.Printer — documents written as JSON text.

Lists and maps that hold something are spread over lines, two spaces deeper at each level. The text is
ASCII: other characters are written as `\u` escapes of their UTF-16 units.
-/
import ShaderRecords.Document.Value
import ShaderRecords.Number.Decimal
import ShaderRecords.Text.Quoted

namespace ShaderRecords.Json

/-- The escape of one UTF-16 unit. -/
def unitEscape (unit : Nat) : List Char :=
  '\\' :: 'u' :: Text.hexDigits 4 unit

/-- A character as it stands in a JSON text. -/
def textChar (c : Char) : List Char :=
  if c = '"' ∨ c = '\\' then ['\\', c]
  else if c = '\n' then ['\\', 'n']
  else if c = '\r' then ['\\', 'r']
  else if c = '\t' then ['\\', 't']
  else if c = '\x08' then ['\\', 'b']
  else if c = '\x0c' then ['\\', 'f']
  else if 0x20 ≤ c.toNat ∧ c.toNat < 0x7F then [c]
  else if c.toNat < 0x10000 then unitEscape c.toNat
  else
    let offset := c.toNat - 0x10000
    unitEscape (0xD800 + offset / 0x400) ++ unitEscape (0xDC00 + offset % 0x400)

/-- A text between quotes. -/
def textLiteral (s : String) : String :=
  String.ofList ('"' :: (s.toList.flatMap textChar ++ ['"']))

/-- A fractional number; infinities and the number that is none have names. -/
def floatLiteral (x : Float) : String :=
  match Binary64.ofFloat x with
  | .nan => "NaN"
  | .infinite negative => if negative then "-Infinity" else "Infinity"
  | .finite .. => Binary64.shortestText x

/-- A line end and the indentation of a level. -/
def lineStart (level : Nat) : String :=
  String.ofList ('\n' :: List.replicate (2 * level) ' ')

/-- Pieces between brackets, one on each line. -/
def bracketed (level : Nat) (opening closing : String) (pieces : List String) : String :=
  if pieces.isEmpty then opening ++ closing
  else
    opening ++ lineStart (level + 1) ++ ("," ++ lineStart (level + 1)).intercalate pieces
      ++ lineStart level ++ closing

mutual

/-- A value at a level of indentation. -/
def render (level : Nat) : Value → String
  | .null => "null"
  | .bool b => if b then "true" else "false"
  | .int n => toString n
  | .float x => floatLiteral x
  | .text s => textLiteral s
  | .list items => bracketed level "[" "]" (renderItems (level + 1) items)
  | .map entries => bracketed level "\x7b" "\x7d" (renderEntries (level + 1) entries)

/-- The items of a list. -/
def renderItems (level : Nat) : List Value → List String
  | [] => []
  | v :: vs => render level v :: renderItems level vs

/-- The entries of a map. -/
def renderEntries (level : Nat) : List (String × Value) → List String
  | [] => []
  | (k, v) :: es => (textLiteral k ++ ": " ++ render level v) :: renderEntries level es

end

end ShaderRecords.Json

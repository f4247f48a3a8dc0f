/-
ShaderRecords.Document.Text — the text of a document value.

`Value.display` is what a message shows in place of a value: a text stands for itself, everything else
is written by `Value.literal`, which puts texts between quotes.
-/
import ShaderRecords.Document.Value
import ShaderRecords.Number.Decimal
import ShaderRecords.Text.Quoted

namespace ShaderRecords.Value

mutual

/-- A value written out, with its texts between quotes. -/
def literal : Value → String
  | null => "None"
  | bool b => if b then "True" else "False"
  | int n => toString n
  | float x => Binary64.shortestText x
  | text s => Text.quoted s
  | list items => "[" ++ ", ".intercalate (literals items) ++ "]"
  | map entries => "\x7b" ++ ", ".intercalate (entryLiterals entries) ++ "\x7d"

/-- The items of a list written out. -/
def literals : List Value → List String
  | [] => []
  | v :: vs => v.literal :: literals vs

/-- The entries of a map written out, a key and its value separated by a colon. -/
def entryLiterals : List (String × Value) → List String
  | [] => []
  | (k, v) :: es => (Text.quoted k ++ ": " ++ v.literal) :: entryLiterals es

end

/-- A value as a part of a message. -/
def display : Value → String
  | text s => s
  | v => v.literal

end ShaderRecords.Value

/-
ShaderRecords.Text.CaseMapping — texts in upper and in lower case.

A character may have an image of several characters (`ß` becomes `SS`). The one image that depends on
its surroundings is that of a capital sigma: at the end of a word it becomes `ς`, elsewhere `σ`.
-/
import ShaderRecords.Text.CaseTable
import ShaderRecords.Text.CharClass

namespace ShaderRecords.Text

/-- The code point a table of runs sends a code point to. -/
def CaseRun.image? (r : CaseRun) (code : Nat) : Option Nat :=
  if r.first ≤ code ∧ code ≤ r.last ∧ (code - r.first) % r.step = 0 then
    some ((code : Int) + r.shift).toNat
  else none

/-- The image of a character under tables of runs and expansions. -/
def caseImage (runs : Array CaseRun) (expansions : Array (Nat × List Nat)) (c : Char) : List Char :=
  match expansions.find? (·.1 == c.toNat) with
  | some (_, image) => image.map Char.ofNat
  | none =>
    match runs.findSome? (·.image? c.toNat) with
    | some code => [Char.ofNat code]
    | none => [c]

/-- The upper-case image of a character. -/
def upperImage (c : Char) : List Char :=
  if 'a' ≤ c ∧ c ≤ 'z' then [Char.ofNat (c.toNat - 32)]
  else if c.toNat < 128 then [c]
  else caseImage upperRuns upperExpansions c

/-- The lower-case image of a character, its surroundings aside. -/
def lowerImage (c : Char) : List Char :=
  if 'A' ≤ c ∧ c ≤ 'Z' then [Char.ofNat (c.toNat + 32)]
  else if c.toNat < 128 then [c]
  else caseImage lowerRuns lowerExpansions c

/-- Whether the first character that is not passed over has a case. -/
def meetsCased (s : List Char) : Bool :=
  match s.dropWhile fun c => inSpans caseIgnorableSpans c.toNat with
  | [] => false
  | c :: _ => inSpans casedSpans c.toNat

/-- Lower case of `rest`, where `before` holds the characters in front of it, the last one first. -/
def lowerFrom (before : List Char) : List Char → List Char
  | [] => []
  | c :: rest =>
    let image :=
      if c = 'Σ' then
        if meetsCased before && !meetsCased rest then ['ς'] else ['σ']
      else lowerImage c
    image ++ lowerFrom (c :: before) rest

/-- A text in upper case. -/
def upper (s : String) : String :=
  String.ofList (s.toList.flatMap upperImage)

/-- A text in lower case. -/
def lower (s : String) : String :=
  String.ofList (lowerFrom [] s.toList)

end ShaderRecords.Text

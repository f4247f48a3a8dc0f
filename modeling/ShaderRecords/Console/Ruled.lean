/-
ShaderRecords.Console.Ruled — texts on a console that draws its headings as rules.

Such a console reads names between colons as pictures, gives tabs their width and drops characters that
would move its cursor. A text in square brackets could be a tag of its own language; `bracketed?` finds
those, and they are shown as they are, with all backslashes in front of them. Everywhere else a backslash
before an opening bracket is not shown, and a lone backslash at the end is shown twice.
-/
import ShaderRecords.Text.Cell
import ShaderRecords.Text.Picture

namespace ShaderRecords.Ruled

open Text

/-- The characters that can follow the opening bracket of a tag. -/
def opensTag (c : Char) : Bool :=
  'a' ≤ c && c ≤ 'z' || c == '#' || c == '/' || c == '@'

/-- The characters up to the first closing bracket, that bracket included, unless there is an opening one
before it; and the characters behind it. -/
def untilClosed? : List Char → Option (List Char × List Char)
  | [] => none
  | c :: rest =>
    if c = '[' then none
    else if c = ']' then some ([c], rest)
    else (untilClosed? rest).map fun (inside, after) => (c :: inside, after)

/-- A tag at the front of a text, and what is behind it. -/
def tag? : List Char → Option (List Char × List Char)
  | '[' :: c :: rest =>
    if opensTag c then (untilClosed? rest).map fun (inside, after) => ('[' :: c :: inside, after) else none
  | _ => none

/-- Backslashes and a tag at the front of a text, and what is behind them. -/
def bracketed? (s : List Char) : Option (List Char × List Char × List Char) :=
  (tag? (s.dropWhile (· = '\\'))).map fun (tag, after) => (s.takeWhile (· = '\\'), tag, after)

/-- A part of a text. -/
inductive Piece where
  | plain (s : List Char)
  /-- A tag with the backslashes in front of it. -/
  | bracketed (backslashes tag : List Char)
deriving Repr

/-- Adds a character in front of pieces. -/
def consChar (c : Char) : List Piece → List Piece
  | .plain s :: rest => .plain (c :: s) :: rest
  | pieces => .plain [c] :: pieces

/-- The pieces of a text, found in at most `steps` steps. -/
def piecesWithin : Nat → List Char → List Piece
  | 0, s => [.plain s]
  | _, [] => []
  | steps + 1, c :: rest =>
    match bracketed? (c :: rest) with
    | some (backslashes, tag, after) => .bracketed backslashes tag :: piecesWithin steps after
    | none => consChar c (piecesWithin steps rest)

/-- The pieces of a text. -/
def pieces (s : List Char) : List Piece :=
  piecesWithin s.length s

/-- A text without the backslashes that stand before opening brackets. -/
def dropGuards : List Char → List Char
  | '\\' :: '[' :: rest => '[' :: dropGuards rest
  | c :: rest => c :: dropGuards rest
  | [] => []

/-- The characters that would move the cursor, and the bell. -/
def movesCursor (c : Char) : Bool :=
  c.toNat ∈ [7, 8, 11, 12, 13]

/-- A piece as it is shown. -/
def Piece.shown : Piece → List Char
  | .plain s => showPictures (dropGuards s)
  | .bracketed backslashes tag => backslashes ++ showPictures tag

/-- A text with its last backslash written twice, if there is no other one before it. -/
def doubleLast (s : List Char) : List Char :=
  match s.reverse with
  | ['\\'] => ['\\', '\\']
  | '\\' :: c :: _ => if c = '\\' then s else s ++ ['\\']
  | _ => s

/-- A text as it is shown, tabs aside. -/
def shown (s : List Char) : List Char :=
  ((pieces (doubleLast s)).flatMap Piece.shown).filter fun c => !movesCursor c

/-- A line as it is shown, `label` being what stands in front of the text. -/
def line (label text : String) : String :=
  String.ofList (expandTabs 0 (label.toList ++ shown text.toList))

/-- A row of dashes. -/
def dashes (n : Nat) : List Char :=
  List.replicate n '─'

/-- A title as it stands in a rule of a given width: in one line, and shortened where it does not leave
two cells at each end. -/
def ruleTitle (width : Nat) (title : String) : List Char :=
  let oneLine := (shown title.toList).map fun c => if c = '\n' then ' ' else c
  shortenToCells (expandTabs 0 oneLine) (width - 4)

/-- A rule with a title in its middle, or without one if there is no title or no room for it. -/
def rule (width : Nat) (title : String) : String :=
  if title = "" ∨ width ≤ 4 then String.ofList (dashes width)
  else
    let middle := ruleTitle width title
    let left := dashes ((width - cellsOf middle) / 2 - 1) ++ ' ' :: middle ++ [' ']
    String.ofList (left ++ dashes (width - cellsOf left))

end ShaderRecords.Ruled

/-
ShaderRecords.Text.Cell — the cells that a text takes in a terminal.

A character takes one cell, two or none. `cutToCells` is the front of a text that takes a given number of
cells; a wide character that would be cut in the middle is left out, and a space stands for its first half.
-/
import ShaderRecords.Text.CellTable
import ShaderRecords.Text.CharClass

namespace ShaderRecords.Text

/-- The number of cells that a character takes. -/
def cellCount (c : Char) : Nat :=
  if inSpans zeroWidthSpans c.toNat then 0 else if inSpans wideSpans c.toNat then 2 else 1

/-- The number of cells that a text takes. -/
def cellsOf (s : List Char) : Nat :=
  s.foldr (fun c cells => cellCount c + cells) 0

@[simp] theorem cellsOf_nil : cellsOf [] = 0 := rfl

@[simp] theorem cellsOf_append (s t : List Char) : cellsOf (s ++ t) = cellsOf s + cellsOf t := by
  induction s with
  | nil => simp
  | cons c s ih =>
    show cellCount c + cellsOf (s ++ t) = cellCount c + cellsOf s + cellsOf t
    rw [ih, Nat.add_assoc]

/-- Halves the part of a text in which the cut has to lie, at most `steps` times. -/
def cutBetween (s : List Char) (cells : Nat) : Nat → Nat → Nat → List Char
  | 0, low, _ => s.take low
  | steps + 1, low, high =>
    let middle := (low + high) / 2
    let front := s.take (middle + 1)
    if cellsOf front = cells + 1 ∧ (front.getLast?.map cellCount) = some 2 then front.dropLast ++ [' ']
    else if cellsOf front = cells then front
    else if cells < cellsOf front then cutBetween s cells steps low middle
    else cutBetween s cells steps middle high

/-- The front of a text that takes the given number of cells, which must not be more than it has. -/
def cutToCells (s : List Char) (cells : Nat) : List Char :=
  if cells = 0 then []
  else if cellsOf s ≤ cells then s
  else cutBetween s cells (s.length + 1) 0 s.length

/-- A text of at most the given number of cells; an ellipsis at its end tells that something is missing. -/
def shortenToCells (s : List Char) (cells : Nat) : List Char :=
  if cellsOf s ≤ cells then s else cutToCells s (cells - 1) ++ ['…']

/-- The cells between two tab stops. -/
def tabWidth : Nat := 8

/-- A line with spaces up to the next tab stop in place of tabs, from the cell `position` of the line
onwards. -/
def expandTabs (position : Nat) : List Char → List Char
  | [] => []
  | '\t' :: rest =>
    let gap := tabWidth - position % tabWidth
    List.replicate gap ' ' ++ expandTabs (position + gap) rest
  | c :: rest =>
    if c = '\n' then c :: expandTabs 0 rest else c :: expandTabs (position + cellCount c) rest

end ShaderRecords.Text

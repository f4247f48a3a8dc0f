/-
ShaderRecords.Files.Path — names of files and directories.

A path is a root, if it has one, and parts. Empty parts and points for "here" are dropped when a path is
read (`Path.ofText`); two points for "one up" stay, since only the file system knows where they lead.
-/
import ShaderRecords.Failure

namespace ShaderRecords

/-- A path: it starts at a root (`/`, or `//`), or at the working directory if the root is empty. -/
structure Path where
  root : String := ""
  parts : List String := []
deriving Repr, DecidableEq, Inhabited

namespace Path

/-- The parts of a text between slashes. -/
def splitParts (s : List Char) : List String :=
  ((s.splitOnP (· == '/')).map String.ofList).filter fun part => part ≠ "" ∧ part ≠ "."

/-- The root that a text starts with; three slashes and more count as one. -/
def rootOf : List Char → String
  | '/' :: '/' :: '/' :: _ => "/"
  | '/' :: '/' :: _ => "//"
  | '/' :: _ => "/"
  | _ => ""

/-- Reads a path. -/
def ofText (s : String) : Path :=
  ⟨rootOf s.toList, splitParts s.toList⟩

/-- The path as a text. -/
def display (p : Path) : String :=
  if p.root = "" ∧ p.parts = [] then "." else p.root ++ "/".intercalate p.parts

/-- One path after another; one with a root starts anew. -/
def join (p q : Path) : Path :=
  if q.root = "" then ⟨p.root, p.parts ++ q.parts⟩ else q

/-- The last part, empty if there is none. -/
def name (p : Path) : String :=
  p.parts.getLastD ""

/-- The path without its last part. -/
def parent (p : Path) : Path :=
  ⟨p.root, p.parts.dropLast⟩

/-- A part of this path's parent. -/
def sibling (p : Path) (name : String) : Path :=
  ⟨p.root, p.parts.dropLast ++ [name]⟩

/-- The path with another last part; a path without parts has none to replace. -/
def withName (p : Path) (name : String) : Except Breakdown Path :=
  if p.parts = [] then .error .wrongContent else .ok (p.sibling name)

/-- A name without its extension: what stands before the last point, unless that point is the first or
the last character. -/
def dropExtension (name : List Char) : List Char :=
  let extension := name.reverse.takeWhile (· ≠ '.')
  let front := (name.reverse.dropWhile (· ≠ '.')).drop 1
  if extension = [] ∨ front = [] then name else front.reverse

/-- The last part without its extension. -/
def stem (p : Path) : String :=
  String.ofList (dropExtension p.name.toList)

/-- The parts with those that are taken back by two points left out; `before` holds the parts so far,
the last one first. -/
def resolveUps (before : List String) : List String → List String
  | [] => before.reverse
  | part :: rest =>
    if part = ".." then resolveUps before.tail rest else resolveUps (part :: before) rest

/-- The parts of a path from the root of the file system on, `here` being the working directory. -/
def absoluteParts (here : List String) (p : Path) : List String :=
  resolveUps [] (if p.root = "" then here ++ p.parts else p.parts)

/-- What is left of two lists after their common front. -/
def dropCommon : List String → List String → List String × List String
  | a :: as, b :: bs => if a = b then dropCommon as bs else (a :: as, b :: bs)
  | as, bs => (as, bs)

/-- The way from one path to another, as a text. -/
def wayFrom (here : List String) (base p : Path) : String :=
  let (ups, downs) := dropCommon (base.absoluteParts here) (p.absoluteParts here)
  let parts := ups.map (fun _ => "..") ++ downs
  if parts = [] then "." else "/".intercalate parts

end Path

end ShaderRecords

/-
ShaderRecords.Document.Json.Depth — how deep a text is nested.

Readers give up on a text that opens too many lists and maps inside one another. They notice it at the
bracket that opens one too many, so what comes behind that bracket does not matter, while anything wrong in
front of it is noticed first.
-/
import ShaderRecords.Document.Json.Reader

namespace ShaderRecords.Json

/-- Where a count of brackets is. -/
inductive CountPlace where
  | outside
  | quoted
  /-- Behind a backslash. -/
  | escaped
deriving Repr, DecidableEq

/-- The place behind a character. -/
def CountPlace.next (c : Char) : CountPlace → CountPlace
  | outside => if c = '"' then quoted else outside
  | quoted => if c = '"' then outside else if c = '\\' then escaped else quoted
  | escaped => quoted

/-- The number of open brackets behind a character. -/
def depthAfter (c : Char) (depth : Nat) : CountPlace → Nat
  | .outside =>
    if c = '[' ∨ c = '\x7b' then depth + 1 else if c = ']' ∨ c = '\x7d' then depth - 1 else depth
  | _ => depth

/-- The number of characters up to the bracket that opens one level too many, that bracket included. -/
def deepLength? (limit : Nat) (depth : Nat) (place : CountPlace) : List Char → Option Nat
  | [] => none
  | c :: rest =>
    if limit < depthAfter c depth place then some 1
    else (deepLength? limit (depthAfter c depth place) (place.next c) rest).map (· + 1)

/-- The front of a text up to the bracket that opens one level too many. -/
def deepFront? (limit : Nat) (s : List Char) : Option (List Char) :=
  (deepLength? limit 0 .outside s).map s.take

/-- Whether a text is the front of a JSON text. -/
def isFront (s : List Char) : Bool :=
  ((Lexer.tokens? s).bind fun tokens => tokens.foldlM Reader.step? {}).isSome

/-- The depth that readers of JSON text can reach. -/
def maxDepth : Nat := 980

/-- Whether a JSON text is too deep. -/
def isTooDeep (s : List Char) : Bool :=
  (deepFront? maxDepth s).any isFront

end ShaderRecords.Json

/-
ShaderRecords.Document.Yaml — documents read from YAML text.

Documents use the part of YAML that is written with brackets and quotes, as JSON is. YAML is stricter than
JSON in some ways, most of which `Scan.step?` looks after: some characters must not occur at all, tabs occur
in quoted texts only, and a key has its colon in its own line and not far behind its opening quote, unless a
question mark announces it. A line of a text must not look like the line between two documents. A text with
nothing in it stands for `null`.
-/
import ShaderRecords.Document.Json.Depth
import ShaderRecords.Document.Json.Printer
import ShaderRecords.Number.Limit

namespace ShaderRecords.Yaml

/-- Whether a character may occur in a text. -/
def isAllowed (c : Char) : Bool :=
  let code := c.toNat
  c ∈ ['\t', '\n', '\r'] || 0x20 ≤ code && code ≤ 0x7E || code == 0x85 || 0xA0 ≤ code && code ≤ 0xD7FF
    || 0xE000 ≤ code && code ≤ 0xFFFD || 0x10000 ≤ code

/-- Characters that end a line. -/
def isLineBreak (c : Char) : Bool :=
  c ∈ ['\n', '\r', '\x85', '\u2028', '\u2029']

/-- The largest distance between the opening quote of a key and its colon. -/
def keyReach : Nat := 1024

/-- What is known of the key that there could be. -/
inductive KeyState where
  /-- There is none, or its line has ended. -/
  | none
  /-- An entry begins here. -/
  | start
  /-- The distance from its opening quote. -/
  | within (distance : Nat)
  /-- A question mark has announced it. -/
  | announced
deriving Repr, DecidableEq

namespace KeyState

/-- The state behind a blank or behind a character of a quoted text. -/
def next (c : Char) : KeyState → KeyState
  | within n => if isLineBreak c then none else within (n + 1)
  | k => k

/-- Whether a colon may follow. -/
def takesColon : KeyState → Bool
  | none | start => false
  | within n => n ≤ keyReach
  | announced => true

end KeyState

/-- Where a scan is. -/
inductive Place where
  | outside (key : KeyState)
  | quoted (key : KeyState)
  /-- Behind a backslash. -/
  | escaped (key : KeyState)
deriving Repr, DecidableEq

/-- A scan of a text, with the characters of the JSON text so far, the last one first. -/
structure Scan where
  place : Place := .outside .none
  chars : List Char := []
deriving Repr

namespace Scan

/-- The state of a key when its quote opens. -/
def opening : KeyState → KeyState
  | .announced => .announced
  | _ => .within 1

/-- The step outside quoted texts. -/
def stepOutside? (chars : List Char) (key : KeyState) (c : Char) : Option Scan :=
  match c with
  | '\t' => none
  | '"' => some ⟨.quoted (opening key), c :: chars⟩
  | '?' => if key = .start then some ⟨.outside .announced, chars⟩ else none
  | ':' => if key.takesColon then some ⟨.outside .none, c :: chars⟩ else none
  | c =>
    if c = ' ' ∨ isLineBreak c then
      some ⟨.outside (key.next c), (if isLineBreak c then '\n' else c) :: chars⟩
    else some ⟨.outside (if c = ',' ∨ c = '\x7b' then .start else .none), c :: chars⟩

/-- One step of a scan. -/
def step? (s : Scan) (c : Char) : Option Scan :=
  if !isAllowed c then none
  else
    match s.place with
    | .outside key => stepOutside? s.chars key c
    | .quoted key =>
      let place := if c = '"' then Place.outside (key.next c)
        else if c = '\\' then .escaped (key.next c) else .quoted (key.next c)
      some ⟨place, c :: s.chars⟩
    | .escaped key => some ⟨.quoted (key.next c), c :: s.chars⟩

end Scan

/-- The JSON text that a text amounts to. -/
def jsonChars? (s : List Char) : Option (List Char) :=
  (s.foldlM Scan.step? {}).map fun scan => scan.chars.reverse

/-- A text without the mark that may stand at its start. -/
def dropByteOrderMark : List Char → List Char
  | '\uFEFF' :: rest => rest
  | s => s

/-- Whether a text starts like the line between two documents. -/
def startsSeparator : List Char → Bool
  | a :: b :: c :: d :: _ =>
    (a == '-' || a == '.') && b == a && c == a && (d == ' ' || d == '\t' || isLineBreak d)
  | _ => false

/-- Whether a line behind the first one looks like the line between two documents. -/
def hasSeparator : List Char → Bool
  | [] => false
  | c :: rest => isLineBreak c && startsSeparator rest || hasSeparator rest

/-- The depth that documents can have. -/
def maxDepth : Nat := 480

/-- Whether a text is too deep. -/
def isTooDeep (s : List Char) : Bool :=
  ((Json.deepFront? maxDepth s).bind jsonChars?).any Json.isFront

/-- The document that a text stands for, none if the text is not YAML. A text that is too deep breaks down,
and so does one with a whole number that is too long. -/
def read (text : String) : Except Breakdown (Option Value) := do
  let s := dropByteOrderMark text.toList
  if s.all fun c => c = ' ' ∨ isLineBreak c then return some .null
  if isTooDeep s then throw .endless
  if hasSeparator s then return none
  match (jsonChars? s).bind fun chars => Json.read? (String.ofList chars) with
  | none => return none
  | some doc => if doc.isWritable then return some doc else throw .wrongContent

mutual

/-- The text of a document, in one line, with all its keys announced. -/
def render : Value → String
  | .list items => "[" ++ ", ".intercalate (renderItems items) ++ "]"
  | .map entries => "\x7b" ++ ", ".intercalate (renderEntries entries) ++ "\x7d"
  | v => Json.render 0 v

/-- The texts of the items of a list. -/
def renderItems : List Value → List String
  | [] => []
  | v :: vs => render v :: renderItems vs

/-- The texts of the entries of a map. -/
def renderEntries : List (String × Value) → List String
  | [] => []
  | (k, v) :: es => ("? " ++ Json.textLiteral k ++ ": " ++ render v) :: renderEntries es

end

end ShaderRecords.Yaml

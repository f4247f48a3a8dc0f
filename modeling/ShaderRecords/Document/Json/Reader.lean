/-
ShaderRecords.Document.Json.Reader — documents read from JSON text.

The reader is a machine with a stack of the lists and maps that are still open; it takes one token at
a time (`Reader.step?`) and accepts when exactly one value has been closed. Keys that repeat follow
`Ordered.put`.
-/
import ShaderRecords.Document.Json.Token

namespace ShaderRecords.Json

/-- A list or map that is still open. -/
inductive Frame where
  /-- The items so far, the last one first. -/
  | list (items : List Value)
  /-- The entries so far and the key whose value is awaited. -/
  | map (entries : Entries) (key : String)

/-- What may come next. -/
inductive Expect where
  | value
  | valueOrClose
  | keyOrClose
  | key (entries : Entries)
  | colon (entries : Entries) (key : String)
  | separator (v : Value)

/-- The open lists and maps, the innermost first, and what may come next. -/
structure Reader where
  stack : List Frame := []
  expect : Expect := .value

namespace Reader

/-- One step of the reader. -/
def step? (r : Reader) (t : Token) : Option Reader :=
  match r.expect, t with
  | .value, .scalar v => some ⟨r.stack, .separator v⟩
  | .value, .openList => some ⟨.list [] :: r.stack, .valueOrClose⟩
  | .value, .openMap => some ⟨r.stack, .keyOrClose⟩
  | .valueOrClose, .scalar v => some ⟨r.stack, .separator v⟩
  | .valueOrClose, .openList => some ⟨.list [] :: r.stack, .valueOrClose⟩
  | .valueOrClose, .openMap => some ⟨r.stack, .keyOrClose⟩
  | .valueOrClose, .closeList => some ⟨r.stack.tail, .separator (.list [])⟩
  | .keyOrClose, .scalar (.text k) => some ⟨r.stack, .colon [] k⟩
  | .keyOrClose, .closeMap => some ⟨r.stack, .separator (.map [])⟩
  | .key entries, .scalar (.text k) => some ⟨r.stack, .colon entries k⟩
  | .colon entries k, .colon => some ⟨.map entries k :: r.stack, .value⟩
  | .separator v, .comma =>
    match r.stack with
    | .list items :: rest => some ⟨.list (v :: items) :: rest, .value⟩
    | .map entries k :: rest => some ⟨rest, .key (entries.put k v)⟩
    | [] => none
  | .separator v, .closeList =>
    match r.stack with
    | .list items :: rest => some ⟨rest, .separator (.list (v :: items).reverse)⟩
    | _ => none
  | .separator v, .closeMap =>
    match r.stack with
    | .map entries k :: rest => some ⟨rest, .separator (.map (entries.put k v))⟩
    | _ => none
  | _, _ => none

end Reader

/-- The document that a JSON text stands for. -/
def read? (s : String) : Option Value := do
  let tokens ← Lexer.tokens? s.toList
  let r ← tokens.foldlM Reader.step? {}
  match r.stack, r.expect with
  | [], .separator v => return v
  | _, _ => none

end ShaderRecords.Json

/-
ShaderRecords.Document.Ordered — entries under names, in the order in which the names first appear.

A name that is put twice keeps its first place and takes its last value. The view of the entries is
`Ordered.find?`; the lemmas say what putting an entry does to it (`find?_put`) and to the names
(`names_put`).
-/

namespace ShaderRecords

/-- Entries under names, in the order of the names' first appearance. -/
abbrev Ordered (α : Type) := List (String × α)

namespace Ordered

variable {α : Type}

/-- The value under a name. -/
def find? (es : Ordered α) (name : String) : Option α :=
  List.lookup name es

/-- The names, in order. -/
def names (es : Ordered α) : List String :=
  es.map (·.1)

/-- Replaces the value under a name, or adds the entry at the end. -/
def put : Ordered α → String → α → Ordered α
  | [], name, v => [(name, v)]
  | (k, old) :: es, name, v => if k = name then (k, v) :: es else (k, old) :: put es name v

@[simp] theorem find?_nil (name : String) : find? ([] : Ordered α) name = none := rfl

theorem find?_cons (k : String) (v : α) (es : Ordered α) (name : String) :
    find? ((k, v) :: es) name = if name = k then some v else find? es name := by
  by_cases h : name = k
  · subst h
    simp [find?]
  · simp [find?, List.lookup_cons, beq_false_of_ne h, h]

@[simp] theorem names_cons (k : String) (v : α) (es : Ordered α) :
    names ((k, v) :: es) = k :: names es := rfl

/-- Putting an entry changes what is found under its name, and nothing else. -/
theorem find?_put (es : Ordered α) (name other : String) (v : α) :
    find? (es.put name v) other = if other = name then some v else find? es other := by
  induction es with
  | nil => exact find?_cons name v [] other
  | cons e es ih =>
    obtain ⟨k, old⟩ := e
    by_cases h : k = name
    · subst h
      by_cases ho : other = k <;> simp [put, find?_cons, ho]
    · by_cases ho : other = k
      · subst ho
        simp [put, find?_cons, h]
      · simp [put, find?_cons, h, ho, ih]

@[simp] theorem find?_put_self (es : Ordered α) (name : String) (v : α) :
    find? (es.put name v) name = some v := by
  simp [find?_put]

/-- A name that is there keeps its place; another one comes last. -/
theorem names_put (es : Ordered α) (name : String) (v : α) :
    names (es.put name v) = if name ∈ names es then names es else names es ++ [name] := by
  induction es with
  | nil => rfl
  | cons e es ih =>
    obtain ⟨k, old⟩ := e
    by_cases h : k = name
    · simp [put, h]
    · have h' : ¬ name = k := fun he => h he.symm
      by_cases hm : name ∈ names es <;> simp [put, h, h', hm, ih]

end Ordered

end ShaderRecords

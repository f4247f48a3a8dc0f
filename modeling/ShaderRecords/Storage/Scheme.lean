/-
ShaderRecords.Storage.Scheme — the ways in which values are stored in the words of a record.
-/
import ShaderRecords.Document.Same
import ShaderRecords.Text.CaseMapping

namespace ShaderRecords

/-- How a value is stored in a word. -/
inductive Scheme where
  /-- A fraction of the largest number that fits into some bits of the word. -/
  | packedFloat
  /-- A whole number in some bits of the word, or a fraction if a range is given. -/
  | packedUint
  /-- Three small floating-point numbers of eleven, eleven and ten bits. -/
  | smallFloats
  /-- The value as it is. -/
  | noPacking
deriving Repr, DecidableEq, Inhabited

namespace Scheme

/-- All schemes. -/
def all : List Scheme := [packedFloat, packedUint, smallFloats, noPacking]

/-- The name under which documents ask for a scheme. -/
def label : Scheme → String
  | packedFloat => "PackedFloat"
  | packedUint => "PackedUint"
  | smallFloats => "R11G11B10"
  | noPacking => "NoPacking"

/-- Whether a value takes some bits of the word only. -/
def isBitField : Scheme → Bool
  | packedFloat | packedUint => true
  | _ => false

/-- The scheme that a text asks for: letter case, underscores and spaces do not matter. -/
def ofText? (s : String) : Option Scheme :=
  let key := Text.lower (String.ofList (s.toList.filter fun c => c ≠ '_' ∧ c ≠ ' '))
  all.find? fun scheme => Text.lower scheme.label == key

/-- The scheme that a value of a document asks for. -/
def ofValue? (v : Value) : Except Breakdown (Option Scheme) :=
  if v.isPresent then do return ofText? (← v.textParts) else .ok none

end Scheme

end ShaderRecords

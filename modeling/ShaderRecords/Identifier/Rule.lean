/-
ShaderRecords.Identifier.Rule — names made of values that nobody has checked.

`NameRule.apply` makes a name by a rule from as many values as the rule takes. A value that is no text
breaks down, unless the rule has no use for it.
-/
import ShaderRecords.Document.Same
import ShaderRecords.Identifier

namespace ShaderRecords

/-- The rules by which names are made. -/
inductive NameRule where
  /-- Underscores between the words of a name. -/
  | separatedWords
  /-- A name without the mark of members. -/
  | withoutMemberMark
  /-- A name without the mark of constants. -/
  | withoutConstantMark
  /-- The name on the shader side, of a name and perhaps a name that is asked for. -/
  | shaderName
  | constant
  /-- The define of a value of an enumeration, of the names of both. -/
  | enumValue
  | unqualified
  /-- The define of a debug entry, of the full name of its type and its label. -/
  | debugEntry
  | capitalized
  | includeGuard
deriving Repr, DecidableEq

/-- The name of a binding, keyword or kernel on the shader side: the one that is asked for, or else its own
name without the mark of members. -/
def shaderName (name target : Value) : Except Breakdown Value :=
  if target.isPresent then .ok target
  else do return .text (Identifier.dropMemberMark (← name.textParts))

/-- A name with its first letter in upper case; a value that does not count as present stays. -/
def capitalizedValue : Value → Except Breakdown Value
  | .text s => .ok (.text (Identifier.capitalized s))
  | .list (first :: _) => .error (if first.text?.isSome then .wrongKind else .missingPart)
  | .map (_ :: _) => .error .missingKey
  | v => if v.isPresent then .error .wrongKind else .ok v

namespace NameRule

/-- The name that a rule makes. -/
def apply : NameRule → List Value → Except Breakdown Value
  | separatedWords, [name] => do return .text (Identifier.separateWords (← name.asText))
  | withoutMemberMark, [name] => do return .text (Identifier.dropMemberMark (← name.textParts))
  | withoutConstantMark, [name] => do return .text (Identifier.dropConstantMark (← name.textParts))
  | shaderName, [name] => ShaderRecords.shaderName name .null
  | shaderName, [name, target] => ShaderRecords.shaderName name target
  | constant, [name] => do return .text (Identifier.ofConstant (← name.asText))
  | enumValue, [type, name] => do
    return .text (Identifier.ofEnumValue (← type.asText) (← name.asText))
  | unqualified, [name] => do return .text (Identifier.unqualified (← name.textParts))
  | debugEntry, [type, label] => do
    return .text (Identifier.ofDebugEntry (← type.textParts) (← label.textParts))
  | capitalized, [name] => capitalizedValue name
  | includeGuard, [name] => do return .text (Identifier.includeGuard (← name.textParts))
  | _, _ => .error .wrongKind

end NameRule

end ShaderRecords

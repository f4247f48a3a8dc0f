/-
ShaderRecords.Identifier — how the names of a description become names of the shader side.

* Members may carry the mark `m_`, constants `k_` or `s_`; the marks are dropped.
* Names of constants get an underscore at every change from a small to a capital ASCII letter and are
  then put in upper case: `maxLightCount` becomes `MAX_LIGHT_COUNT`.
* The name of a nested type `A+B` becomes `A_B`, and only the part after the last point counts.
-/
import ShaderRecords.Text.CaseMapping

namespace ShaderRecords.Identifier

/-- Small ASCII letters. -/
def isSmall (c : Char) : Bool :=
  'a' ≤ c && c ≤ 'z'

/-- Capital ASCII letters. -/
def isCapital (c : Char) : Bool :=
  'A' ≤ c && c ≤ 'Z'

/-- Puts an underscore between every small letter and a capital that follows it. -/
def separate : List Char → List Char
  | c :: d :: rest =>
    if isSmall c && isCapital d then c :: '_' :: separate (d :: rest) else c :: separate (d :: rest)
  | s => s

/-- Puts an underscore between every small letter and a capital that follows it. -/
def separateWords (name : String) : String :=
  String.ofList (separate name.toList)

/-- A text without a given front, if it has that front. -/
def dropMark (mark : List Char) (s : List Char) : List Char :=
  if mark.isPrefixOf s then s.drop mark.length else s

/-- A name without the mark of members. -/
def dropMemberMark (name : String) : String :=
  String.ofList (dropMark ['m', '_'] name.toList)

/-- A name without the mark of constants. -/
def dropConstantMark (name : String) : String :=
  let s := name.toList
  String.ofList (if ['k', '_'].isPrefixOf s then s.drop 2 else dropMark ['s', '_'] s)

/-- The define of a constant. -/
def ofConstant (name : String) : String :=
  Text.upper (dropConstantMark (separateWords name))

/-- The define of a value of an enumeration. -/
def ofEnumValue (typeName value : String) : String :=
  Text.upper (typeName ++ "_" ++ separateWords value)

/-- The characters after the last point. -/
def afterLastPoint (s : List Char) : List Char :=
  (s.reverse.takeWhile (· ≠ '.')).reverse

/-- A type's own name, without the names around it. -/
def unqualified (fullName : String) : String :=
  String.ofList ((afterLastPoint fullName.toList).map fun c => if c = '+' then '_' else c)

/-- The define of an entry of the debug view. -/
def ofDebugEntry (fullName label : String) : String :=
  let words := separate (label.toList.map fun c => if c = ' ' then '_' else c)
  Text.upper ("DEBUGVIEW_" ++ unqualified fullName ++ "_" ++ String.ofList words)

/-- A name with its first letter in upper case, as it follows `Get`, `Set` and `Init`. -/
def capitalized (name : String) : String :=
  match name.toList with
  | [] => name
  | c :: rest => String.ofList (Text.upperImage c ++ rest)

/-- The include guard of a file: its name in upper case with underscores for points, and an underscore
in front unless it starts with a letter. -/
def includeGuard (fileName : String) : String :=
  let guarded := Text.upper (String.ofList (fileName.toList.map fun c => if c = '.' then '_' else c))
  match guarded.toList with
  | c :: _ => if Text.isLetter c then guarded else "_" ++ guarded
  | [] => "_" ++ guarded

end ShaderRecords.Identifier

/-
ShaderRecords.Storage.Error — problems with requests to store values in bits.
-/
import ShaderRecords.Document.Whole
import ShaderRecords.Failure
import ShaderRecords.Report
import ShaderRecords.Storage.Layout

namespace ShaderRecords

/-- The member that a problem is about. -/
structure Site where
  type : Value
  field : Value
deriving Repr, Inhabited

namespace Site

/-- The type and the member, separated by a point. -/
def display (s : Site) : String :=
  s.type.display ++ "." ++ s.field.display

/-- The type and the member as named values. -/
def context (s : Site) : Entries :=
  [("type", s.type), ("field", s.field)]

end Site

/-- A problem with a request to store a value in bits. -/
inductive DirectiveError where
  /-- The member asks for ordinary accessors as well. -/
  | accessorConflict (site : Site)
  | unknownScheme (site : Site) (scheme : Value)
  | badWidth (site : Site) (width : Whole)
  | badBits (site : Site) (offset width : Whole)
  /-- The member's type cannot be handed out as it is. -/
  | notNative (site : Site) (fieldType : String)
  /-- The member is no storage word. -/
  | notWord (site : Site) (scheme : Scheme) (fieldType : String)
  | badRange (site : Site) (ends : List Float)
  /-- Functions are asked for a layout that has no scheme. -/
  | noScheme (site : Site)
  | cannotEncode (field : Value)
  | cannotDecode (field : Value)
deriving Repr

namespace DirectiveError

/-- The code of the problem. -/
def code : DirectiveError → String
  | accessorConflict .. => "E_ACCESSOR_CONFLICT"
  | unknownScheme .. | noScheme .. | cannotEncode .. | cannotDecode .. => "E_UNKNOWN_SCHEME"
  | badWidth .. | badBits .. => "E_BIT_RANGE"
  | notNative .. | notWord .. => "E_UNRECOGNIZED_TYPE"
  | badRange .. => "E_VALUE_RANGE"

/-- The ends of a range as a list. -/
def endsValue (ends : List Float) : Value :=
  .list (ends.map .float)

/-- The message of the problem. -/
def message : DirectiveError → String
  | accessorConflict site =>
    "'" ++ site.display ++ "' carries packing directives and also requests ordinary accessors"
  | unknownScheme site scheme =>
    "unknown packing scheme '" ++ scheme.display ++ "' on '" ++ site.display ++ "'"
  | badWidth site width =>
    "bit width " ++ width.display ++ " of '" ++ site.display ++ "' must be in 1.." ++ toString wordBits
  | badBits site offset width =>
    "bits " ++ offset.display ++ ".." ++ toString (offset.toInt + width.toInt - 1) ++ " of '"
      ++ site.display ++ "' do not fit in " ++ toString wordBits ++ " bits"
  | notNative site fieldType =>
    "'" ++ fieldType ++ "' of '" ++ site.display ++ "' cannot be exposed without packing"
  | notWord site scheme fieldType =>
    scheme.label ++ " needs a uint backing field, '" ++ site.display ++ "' is '" ++ fieldType ++ "'"
  | badRange site ends =>
    "value range " ++ (endsValue ends).literal ++ " of '" ++ site.display
      ++ "' must be [min, max] with max != min"
  | noScheme site => "no packing scheme for '" ++ site.display ++ "'"
  | cannotEncode field => "cannot encode '" ++ field.display ++ "' without a scheme"
  | cannotDecode field => "cannot decode '" ++ field.display ++ "' without a scheme"

/-- What the problem is about. -/
def context : DirectiveError → Option Entries
  | accessorConflict site | noScheme site => some site.context
  | unknownScheme site scheme => some (site.context.put "scheme" scheme)
  | badWidth site width => some (site.context.put "width" width.toValue)
  | badBits site offset width =>
    some ((site.context.put "offset" offset.toValue).put "width" width.toValue)
  | notNative site fieldType | notWord site _ fieldType => some (site.context.put "field_type" fieldType)
  | badRange site ends => some (site.context.put "range" (endsValue ends))
  | cannotEncode _ | cannotDecode _ => none

/-- The problem as it is told. -/
def report (e : DirectiveError) : Report where
  category := .directive
  code := e.code
  message := e.message
  context := e.context

end DirectiveError

end ShaderRecords

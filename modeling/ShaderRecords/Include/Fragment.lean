/-
ShaderRecords.Include.Fragment — the pieces of an include file and their order.

A file has sections: defines, declarations, ordinary accessors, debug functions, functions for packed
values, bindings, pragmas. In a section the pieces of one owner stand together, owners in the order of
their declaration, and the pieces of an owner in the order of their kinds.
-/

namespace ShaderRecords

/-- What a piece of an include file holds. -/
inductive FragmentKind where
  | defines
  | declaration
  | accessors
  | setters
  | initializers
  | debug
  | packedInclude
  | packedGetters
  | packedSetters
  | packedInitializers
  | packedDebug
  | binding
  | pragma
deriving Repr, DecidableEq, Inhabited

namespace FragmentKind

/-- All kinds, in their order. -/
def all : List FragmentKind :=
  [defines, declaration, accessors, setters, initializers, debug, packedInclude, packedGetters,
    packedSetters, packedInitializers, packedDebug, binding, pragma]

/-- The name of a kind. -/
def label : FragmentKind → String
  | defines => "defines"
  | declaration => "declaration"
  | accessors => "accessors"
  | setters => "setters"
  | initializers => "initializers"
  | debug => "debug"
  | packedInclude => "packed_include"
  | packedGetters => "packed_getters"
  | packedSetters => "packed_setters"
  | packedInitializers => "packed_initializers"
  | packedDebug => "packed_debug"
  | binding => "binding"
  | pragma => "pragma"

/-- The kind with a name. -/
def ofLabel? (s : String) : Option FragmentKind :=
  all.find? (·.label == s)

/-- The section of a kind. -/
def sectionIndex : FragmentKind → Nat
  | defines => 0
  | declaration => 1
  | accessors | setters | initializers => 2
  | debug => 3
  | packedInclude | packedGetters | packedSetters | packedInitializers | packedDebug => 4
  | binding => 5
  | pragma => 6

/-- The place of a kind among all kinds. -/
def rank (k : FragmentKind) : Nat :=
  all.idxOf k

end FragmentKind

/-- A piece of an include file. -/
structure Fragment where
  kind : FragmentKind
  text : String
  /-- The position of the type or binding that the piece belongs to. -/
  owner : Int := 0
deriving Repr, DecidableEq, Inhabited

namespace Fragment

/-- What decides the place of a piece: section, owner and kind, in this order. -/
def key (f : Fragment) : Nat × Int × Nat :=
  (f.kind.sectionIndex, f.owner, f.kind.rank)

/-- Whether a piece may stand before another. -/
def before (f g : Fragment) : Bool :=
  let (s, o, r) := f.key
  let (s', o', r') := g.key
  if s ≠ s' then s < s' else if o ≠ o' then o < o' else r ≤ r'

/-- Pieces in the order of a file; pieces of the same place keep their order. -/
def inOrder (fs : List Fragment) : List Fragment :=
  fs.mergeSort before

/-- The text of pieces in the order of a file. -/
def render (fs : List Fragment) : String :=
  String.join ((inOrder fs).map (·.text))

end Fragment

end ShaderRecords

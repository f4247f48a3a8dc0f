/-
ShaderRecords.Storage.Resolution — requests checked and turned into layouts.

`Layout.ofDirective` checks one request; the first violated condition is the one that is told. A
`Resolver` remembers the layouts it has made, under type, member and position of the request, and hands
out a remembered layout without checking again.
-/
import ShaderRecords.Description.Basic
import ShaderRecords.Storage.Error

namespace ShaderRecords

/-- The bits that a request takes: the whole word unless its scheme takes some bits only. -/
def Directive.bits (d : Directive) (site : Site) (scheme : Scheme) :
    Except (Failure DirectiveError) (Whole × Whole) :=
  if scheme.isBitField then
    let width := d.width.getD 0
    if ¬(1 ≤ width.toInt ∧ width.toInt ≤ wordBits) then refuse (.badWidth site width)
    else if d.offset.toInt < 0 ∨ d.offset.toInt + width.toInt > wordBits then do
      let _ ← wholeText (d.offset.toInt + width.toInt - 1)
      refuse (.badBits site d.offset width)
    else .ok (d.offset, width)
  else .ok (0, if scheme = .noPacking then 0 else .number wordBits)

/-- Fails unless a member's type suits a scheme. -/
def checkStorageType (site : Site) (scheme : Scheme) (type : String) :
    Except (Failure DirectiveError) Unit :=
  if scheme = .noPacking then
    if (nativeTypes.lookup type).isNone then refuse (.notNative site type) else .ok ()
  else if type ≠ "uint" then refuse (.notWord site scheme type)
  else .ok ()

/-- The ends of the range that a request asks for, zero and one if it asks for none. They differ. -/
def Directive.ends (d : Directive) (site : Site) :
    Except (Failure DirectiveError) (Number × Number) :=
  match d.range.getD [0, 1] with
  | [lo, hi] => if lo == hi then refuse (.badRange site [lo, hi]) else .ok (.float lo, .float hi)
  | other => refuse (.badRange site other)

/-- The names that a request gives its value, the member's name if it gives none. -/
def Directive.names (d : Directive) (member : Value) : List Value :=
  let given := d.labels.filter fun label => !label.isEmpty
  if given.isEmpty then [member] else given.map .text

/-- The layout that a member's request asks for. -/
def Layout.ofDirective (typeName : Value) (m : Member) (d : Directive) :
    Except (Failure DirectiveError) (Layout Number) := do
  let site : Site := ⟨typeName, m.name⟩
  match ← orBreak (Scheme.ofValue? d.scheme) with
  | none => refuse (.unknownScheme site d.scheme)
  | some scheme =>
    let (offset, width) ← d.bits site scheme
    checkStorageType site scheme m.type
    let range ← d.ends site
    return {
      field := m.name
      fieldType := m.type
      scheme := some scheme
      offset := offset
      width := width
      range := range
      labels := d.names m.name
      isDirection := d.isDirection
      srgb := d.srgb
      checkNormalized := d.checkNormalized
      normalized := d.range.isSome || scheme ≠ .packedUint
      guard := d.guard }

/-- What a layout is remembered under. -/
structure LayoutKey where
  type : Value
  member : Value
  index : Int
deriving Repr, Inhabited

/-- Whether two keys are the same. -/
def LayoutKey.same (a b : LayoutKey) : Bool :=
  a.type.same b.type && a.member.same b.member && a.index == b.index

/-- The layouts made so far, the latest first. -/
structure Resolver where
  known : List (LayoutKey × Layout Number) := []
deriving Repr, Inhabited

/-- A step that reads and extends a resolver; what it has remembered stays when it fails. -/
abbrev Resolving := ExceptT (Failure DirectiveError) (StateM Resolver)

namespace Resolver

/-- The number of layouts made so far. -/
def size (r : Resolver) : Nat :=
  r.known.length

/-- The layout remembered under a key. -/
def find? (r : Resolver) (key : LayoutKey) : Option (Layout Number) :=
  (r.known.find? fun entry => entry.1.same key).map (·.2)

/-- Remembers a layout. -/
def remember (r : Resolver) (key : LayoutKey) (l : Layout Number) : Resolver :=
  ⟨(key, l) :: r.known⟩

end Resolver

/-- Whether two requests count as equal. One with an end that a text calls no number equals no other. -/
def Directive.same (a b : Directive) : Bool :=
  !(a.hasSpelledNan || b.hasSpelledNan)
    && a.labels == b.labels && a.scheme.same b.scheme && a.offset.toInt == b.offset.toInt
    && a.width.map Whole.toInt == b.width.map Whole.toInt && sameEnds a.range b.range
    && a.isDirection == b.isDirection && a.srgb == b.srgb && a.checkNormalized == b.checkNormalized
    && a.guard == b.guard
where
  /-- Whether two lists of ends count as equal. -/
  sameEnds : Option (List Float) → Option (List Float) → Bool
    | none, none => true
    | some xs, some ys => xs.length == ys.length && (xs.zip ys).all fun (x, y) => x == y || x.isNaN && y.isNaN
    | _, _ => false

/-- The position of a request among those of a member: that of the first one that is equal to it, but not
behind its own position `own` if it is one of them; zero if there is none. -/
def Member.position (m : Member) (d : Directive) (own : Option Nat := none) : Int :=
  match m.packing.zipIdx.find? fun (e, i) => own = some i || e.same d with
  | some (_, i) => i
  | none => 0

/-- The layout for a request that stands at a position of its member, the remembered one if there is one. -/
def resolve (typeName : Value) (m : Member) (d : Directive) (position : Int) :
    Resolving (Layout Number) := do
  let _ ← ExceptT.mk (pure (orBreak typeName.asKey))
  let _ ← ExceptT.mk (pure (orBreak m.name.asKey))
  let key : LayoutKey := ⟨typeName, m.name, position⟩
  match (← get).find? key with
  | some l => return l
  | none =>
    let l ← ExceptT.mk (pure (Layout.ofDirective typeName m d))
    modify (·.remember key l)
    return l

/-- The layouts for all requests of a member, which must not ask for ordinary accessors as well. -/
def resolveMember (typeName : Value) (m : Member) : Resolving (List (Layout Number)) := do
  if !m.packing.isEmpty && m.accessors.isPresent then
    throw (.issue (.accessorConflict ⟨typeName, m.name⟩))
  m.packing.zipIdx.mapM fun (d, i) => resolve typeName m d (i : Int)

end ShaderRecords

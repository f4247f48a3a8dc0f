/-
ShaderRecords.Product.TypeProduct — what one type gives.

A type is extracted, its fields are packed, its requests to store values in bits are resolved and its
pieces of the include file are written. The first problem ends the work on the type, and a type with a
problem gives no pieces.
-/
import ShaderRecords.Include.Record
import ShaderRecords.Product.Issue
import ShaderRecords.Product.Settings

namespace ShaderRecords

/-- What one type gives. -/
structure TypeProduct where
  typeDef : TypeDef
  extracted : TypeFields := {}
  registers : List Register := []
  layouts : List (Layout Number) := []
  fragments : List Fragment := []
  issues : List Issue := []
deriving Repr

namespace TypeProduct

/-- Whether the type has no problem. -/
def isFine (p : TypeProduct) : Bool :=
  p.issues.isEmpty

/-- The layouts of all members of a type that store packed values. -/
def resolveAll (t : TypeDef) (members : List Member) : Resolving (List (Layout Number)) := do
  return (← members.mapM (resolveMember t.name)).flatten

/-- Adds the pieces of the include file. -/
def withFragments (p : TypeProduct) (packingInclude : Value) (owner : Int) :
    Except Breakdown TypeProduct := do
  let view ← RecordView.of? p.typeDef p.extracted p.registers p.layouts packingInclude
  let (fragments, told) := (view.fragments owner).run.run []
  return { p with fragments := ← fragments, issues := (view.untypedErrors told).map .directive }

/-- Adds the layouts of the packed values and, if it is asked for, the pieces of the include file. -/
def withLayouts (settings : Settings) (owner : Int) (render : Bool) (p : TypeProduct) :
    StateT Resolver (Except Breakdown) TypeProduct := do
  let (layouts, resolver) := (resolveAll p.typeDef p.extracted.packedMembers).run.run (← get)
  set resolver
  match layouts with
  | .error (.breakdown b) => throw b
  | .error (.issue e) => return { p with issues := [.directive e] }
  | .ok layouts =>
    let p := { p with layouts := layouts }
    if render then p.withFragments settings.packingInclude owner else return p

/-- What a type gives. The resolver is the one of its source. -/
def build (registry : Registry) (settings : Settings) (owner : Int) (render : Bool) (t : TypeDef) :
    StateT Resolver (Except Breakdown) TypeProduct := do
  let extracted ← t.extract registry settings.debugStart
  let p : TypeProduct := { typeDef := t, extracted := extracted }
  if !extracted.errors.isEmpty then
    return { p with issues := extracted.errors.map .extraction }
  match pack t.rules extracted.fields with
  | .error (.breakdown b) => throw b
  | .error (.issue e) => return { p with issues := [.packing e] }
  | .ok registers => withLayouts settings owner render { p with registers := registers }

/-- What types give, the first one owning the pieces numbered `owner`. -/
def buildAll (registry : Registry) (settings : Settings) (render : Bool) (owner : Int) :
    List TypeDef → StateT Resolver (Except Breakdown) (List TypeProduct)
  | [] => return []
  | t :: ts => do
    let p ← build registry settings owner render t
    return p :: (← buildAll registry settings render (owner + 1) ts)

end TypeProduct

end ShaderRecords

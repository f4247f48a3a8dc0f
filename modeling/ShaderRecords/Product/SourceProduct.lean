/-
ShaderRecords.Product.SourceProduct — what one source gives.

A source gives up to three files: types and bindings, pragmas, and a manifest. A type or binding with a
problem is left out of them and changes nothing about the others.
-/
import ShaderRecords.Binding.Declaration
import ShaderRecords.Product.FileText
import ShaderRecords.Product.Manifest

namespace ShaderRecords

/-- What one source gives. -/
structure SourceProduct where
  source : Source
  includeTarget : Path
  pragmaTarget : Path
  manifestTarget : Path
  types : List TypeProduct := []
  bindingFragments : List Fragment := []
  pragmas : List String := []
  /-- The problems of the bindings, followed by those of writing. -/
  issues : List Issue := []
  /-- The texts of the files. -/
  outputs : List (Path × String) := []
  written : List Path := []
  unchanged : List Path := []
  skipped : List Path := []
deriving Repr

namespace SourceProduct

/-- All problems. -/
def allIssues (p : SourceProduct) : List Issue :=
  p.types.flatMap (·.issues) ++ p.issues

/-- The pieces of the types that have no problem. -/
def typeFragments (p : SourceProduct) : List Fragment :=
  p.types.flatMap (·.fragments)

/-- The pieces of bindings, and the problems of those that have one; the first binding is numbered
`owner`. -/
def declareBindings (declared : List String) (owner : Int) :
    List Binding → Except Breakdown (List Fragment × List Issue)
  | [] => .ok ([], [])
  | b :: bs =>
    match b.text declared with
    | .error (.breakdown e) => .error e
    | .error (.issue e) => do
      let (fragments, issues) ← declareBindings declared (owner + 1) bs
      return (fragments, .binding e :: issues)
    | .ok text => do
      let (fragments, issues) ← declareBindings declared (owner + 1) bs
      return (⟨.binding, text, owner⟩ :: fragments, issues)

/-- The lines of keywords and kernels. -/
def pragmaLines (s : Source) : Except Breakdown (List String) := do
  let keywords ← s.keywords.mapM Keyword.text
  let kernels ← s.kernels.mapM Kernel.text
  return keywords ++ kernels

/-- What a source gives, without the texts of its files. -/
def plan (registry : Registry) (settings : Settings) (render : Bool) (s : Source) :
    Except Breakdown SourceProduct := do
  let base := settings.outDir.join (.ofText s.path)
  let name := (Path.ofText s.path).name
  let includeTarget ← base.withName (name ++ ".hlsl")
  let pragmaTarget ← base.withName (name ++ ".pragmas.hlsl")
  let manifestTarget ← base.withName (name ++ ".fields.json")
  let (types, _) ← (TypeProduct.buildAll registry settings render 0 s.types).run {}
  let (bindings, issues) ← declareBindings registry.names 0 s.bindings
  let pragmas ← pragmaLines s
  return {
    source := s
    includeTarget := includeTarget
    pragmaTarget := pragmaTarget
    manifestTarget := manifestTarget
    types := types
    bindingFragments := bindings
    pragmas := pragmas
    issues := issues }

/-- The file next to the products that is included by them if it is there: it is named for the source
without its extension. -/
def companion (p : SourceProduct) : Path :=
  p.includeTarget.sibling ((Path.ofText p.source.path).stem ++ ".custom.hlsl")

/-- Whether there is a file of types and bindings. -/
def hasInclude (p : SourceProduct) : Bool :=
  !p.source.types.isEmpty || !p.source.bindings.isEmpty

/-- Whether there is a file of pragmas. -/
def hasPragmas (p : SourceProduct) : Bool :=
  !p.pragmas.isEmpty

/-- The texts of the files. -/
def texts (p : SourceProduct) (settings : Settings) (hasCompanion : Bool) : List (Path × String) :=
  let companion := if hasCompanion then some p.companion.name else none
  let fragments := p.typeFragments ++ p.bindingFragments
  let ofKind (isBinding : Bool) := fragments.filter fun f => (f.kind == .binding) == isBinding
  (if p.hasInclude then
    [(p.includeTarget, FileText.ofTypes settings (Identifier.includeGuard p.includeTarget.name)
      (Fragment.render (ofKind false)) (Fragment.render (ofKind true)) companion)] else [])
  ++ (if p.hasPragmas then
    [(p.pragmaTarget, FileText.ofPragmas settings (Identifier.includeGuard p.pragmaTarget.name)
      p.pragmas companion)] else [])
  ++ (if settings.emitManifest && !p.source.types.isEmpty then
    [(p.manifestTarget, Manifest.text settings p.includeTarget.name p.types)] else [])

/-- What a source gives. -/
def build (registry : Registry) (settings : Settings) (render : Bool) (s : Source) :
    Filing SourceProduct := do
  let p ← Filing.lift (plan registry settings render s)
  if !render then return p
  let hasCompanion ← if p.hasInclude || p.hasPragmas then Filing.isThere p.companion else pure false
  return { p with outputs := p.texts settings hasCompanion }

end SourceProduct

end ShaderRecords

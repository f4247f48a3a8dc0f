/-
ShaderRecords.Run.Generation — include files generated for all sources of a description.

Sources are independent of each other: each one is built and its files are written before the next one
begins, and one that breaks down does not keep the others from being written.
-/
import ShaderRecords.Run.Loading
import ShaderRecords.Run.Result

namespace ShaderRecords

/-- What is asked of a generation. -/
structure GenerationRequest where
  input : String
  /-- The directory below which files are written, the one of the input if there is none. -/
  outDir : Option String := none
  /-- Whether files are only planned. -/
  dryRun : Bool := false
  schema : Option String := none
  /-- How many sources may be worked on at a time. -/
  jobs : Option Int := none
  emitManifest : Bool := false
  packingInclude : Option String := none
deriving Repr, Inhabited

namespace GenerationRequest

/-- The directory below which files are written. -/
def root (q : GenerationRequest) : Path :=
  match q.outDir with
  | none | some "" => (Path.ofText q.input).parent
  | some dir => .ofText dir

/-- The settings for a description. -/
def settings (q : GenerationRequest) (d : Description) : Settings :=
  d.defaults.settings q.root (Path.ofText q.input).name (d.info.version.orElse "")
    ((q.packingInclude.map .text).getD .null) q.emitManifest

end GenerationRequest

/-- Builds a source and, unless files are only planned, writes them. -/
def produce (registry : Registry) (settings : Settings) (dryRun : Bool) (s : Source) :
    Filing SourceProduct := do
  let p ← SourceProduct.build registry settings true s
  if dryRun then return p else p.deliver

/-- Works on sources one after another, whatever becomes of each. -/
def produceAll (registry : Registry) (settings : Settings) (dryRun : Bool) (sources : List Source) :
    FileProgram (List (Except Breakdown SourceProduct)) :=
  sources.mapM fun s => (produce registry settings dryRun s).run

/-- How many items of a kind there are in all products. -/
def countOver (products : List SourceProduct) (size : SourceProduct → Nat) : Value :=
  .int ((products.map size).foldl (· + ·) 0 : Nat)

/-- What is told about all products together. -/
def productFacts (products : List SourceProduct) : Entries :=
  let count := countOver products
  [("types", count fun p => p.types.length), ("targets", count fun p => p.outputs.length),
    ("written", count fun p => p.written.length), ("unchanged", count fun p => p.unchanged.length),
    ("skipped", count fun p => p.skipped.length), ("errors", count fun p => p.allIssues.length)]

namespace Running

/-- The products that have been made, each one shown as a step of the task. -/
def countProducts : List (Except Breakdown SourceProduct) → Running (List SourceProduct)
  | [] => return []
  | .error b :: _ => do
    tell fun c => c.endTask "units" .failed
    throw b
  | .ok p :: rest => do
    tell fun c => c.advance "units" 1 [("current_item", p.source.path)]
    return p :: (← countProducts rest)

/-- Works on all sources as one task. -/
def produceSources (registry : Registry) (settings : Settings) (dryRun : Bool) (sources : List Source) :
    Running (List SourceProduct) := do
  tell fun c => c.startTask "units" "Generating shader includes" (.int sources.length)
  let outcomes ← onProgram (produceAll registry settings dryRun sources)
  let products ← countProducts outcomes
  tell fun c => c.closeTask "units" (productFacts products)
  return products

/-- Tells what has become of the files. -/
def tellOutcome (env : Environment) (q : GenerationRequest) (r : RunResult) : Running Unit := do
  if q.dryRun then
    log .info "[DRY RUN] Planned outputs:"
    r.products.forM fun p => p.outputs.forM fun output =>
      log .info ("    " ++ Path.wayFrom env.here q.root output.1)
  else if r.written.isEmpty then log .info "No changes (up to date)"
  else log .info "Outputs updated"

/-- Generates the include files of all sources. -/
def generate (env : Environment) (q : GenerationRequest) : Running RunResult := do
  log .info (toolName ++ " " ++ toolVersion)
  match ← load env (.ofText q.input) q.schema with
  | .error e => tellDocumentError e
  | .ok d =>
    log .debug ("output root: " ++ q.root.display)
    let registry ← lift (Registry.ofDescription d)
    let products ← produceSources registry (q.settings d) q.dryRun d.sources
    products.forM fun p => tellProduct env q.root p
    let r : RunResult := { products := products }
    tellOutcome env q r
    return r

end Running

end ShaderRecords

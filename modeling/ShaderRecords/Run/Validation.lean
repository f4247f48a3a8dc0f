/-
ShaderRecords.Run.Validation — a description checked without writing anything.
-/
import ShaderRecords.Run.Loading
import ShaderRecords.Run.Result

namespace ShaderRecords

namespace Running

/-- Builds sources without the texts of their files and tells their problems. -/
def checkSources (env : Environment) (registry : Registry) (settings : Settings) :
    List Source → Running (List SourceProduct)
  | [] => return []
  | s :: rest => do
    let p ← onFiles (SourceProduct.build registry settings false s)
    tellProduct env settings.outDir p
    return p :: (← checkSources env registry settings rest)

/-- Checks a description. -/
def validate (env : Environment) (input : String) (schema : Option String) : Running RunResult := do
  let path := Path.ofText input
  match ← load env path schema with
  | .error e => tellDocumentError e
  | .ok d =>
    let settings := d.defaults.settings path.parent input
    let registry ← lift (Registry.ofDescription d)
    tell fun c => c.heading ("Validating " ++ settings.sourceLabel.display)
    let r : RunResult := { products := ← checkSources env registry settings d.sources }
    if r.isFine then
      let types := (r.products.map fun p => p.types.length).foldl (· + ·) 0
      log .info ("Validation successful (" ++ toString types ++ " types)")
    return r

end Running

end ShaderRecords

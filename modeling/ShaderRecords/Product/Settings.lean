/-
ShaderRecords.Product.Settings — what a run is told about its products.
-/
import ShaderRecords.Description.Basic
import ShaderRecords.Files.Path

namespace ShaderRecords

/-- The name of the tool in what it writes. -/
def toolName : String := "ShaderTypeCodeGen"

/-- The version of the tool. -/
def toolVersion : String := "1.0.0"

/-- The settings of a run. -/
structure Settings where
  /-- The directory below which products are written. -/
  outDir : Path
  /-- The name of the document in what is written. -/
  sourceLabel : Value
  sourceVersion : Value := ""
  /-- The include path of the packing library. -/
  packingInclude : Value
  /-- The number of a type's first debug entry. -/
  debugStart : Value
  /-- The command that writes the products again. -/
  command : Value
  /-- Whether a manifest is asked for. -/
  emitManifest : Bool := false
deriving Repr

/-- The settings of a document under those of a run: a packing library that the run asks for goes
first. -/
def Defaults.settings (d : Defaults) (outDir : Path) (sourceLabel : Value)
    (sourceVersion : Value := "") (packingInclude : Value := .null) (emitManifest : Bool := false) :
    Settings where
  outDir := outDir
  sourceLabel := sourceLabel
  sourceVersion := sourceVersion
  packingInclude := packingInclude.orElse d.packingInclude
  debugStart := d.debugStart
  command := d.generatorCommand
  emitManifest := emitManifest

end ShaderRecords

import ShaderRecords.Main
import ShaderRecords.Storage.Codec
import ShaderRecords.Files.Tree
import ShaderRecords.Proofs.Record.Grouping
import ShaderRecords.Proofs.Record.Packing
import ShaderRecords.Proofs.Record.Placement
import ShaderRecords.Proofs.Record.Contents
import ShaderRecords.Proofs.Number.Bits
import ShaderRecords.Proofs.Storage.BitField
import ShaderRecords.Proofs.Storage.Lens
import ShaderRecords.Proofs.Include.BitFieldFunctions
import ShaderRecords.Proofs.Include.Conditions
import ShaderRecords.Proofs.Product.Guards
import ShaderRecords.Proofs.Run.Loading
import ShaderRecords.Proofs.Product.Siblings
import ShaderRecords.Proofs.Product.Totality
import ShaderRecords.Proofs.Include.Functions
import ShaderRecords.Proofs.Product.Checking
import ShaderRecords.Proofs.Files.Directories
import ShaderRecords.Proofs.Product.Targets
import ShaderRecords.Proofs.Record.Names
import ShaderRecords.Proofs.Run.Entanglement
import ShaderRecords.Proofs.Storage.Requests
import ShaderRecords.Proofs.Product.StorageWords
import ShaderRecords.Proofs.Product.DebugGetters
import ShaderRecords.Proofs.Extraction.Constants
import ShaderRecords.Proofs.Description.Lowering
import ShaderRecords.Proofs.Product.Delivery
import ShaderRecords.Proofs.Files.Replacement
import ShaderRecords.Proofs.Run.Reporting
import ShaderRecords.Proofs.Number.Product
import ShaderRecords.Proofs.Storage.Neighbours
import ShaderRecords.Proofs.Product.IncludeGuards
import ShaderRecords.Proofs.Product.FunctionNames
import ShaderRecords.Proofs.Product.Accesses
import ShaderRecords.Proofs.Record.Online
import ShaderRecords.Proofs.Number.Representable
import ShaderRecords.Proofs.Storage.SmallFloat
import ShaderRecords.Proofs.Storage.Accuracy
import ShaderRecords.Proofs.Storage.WholeWord
import ShaderRecords.Proofs.Record.Economy
import ShaderRecords.Proofs.Storage.Transparency
import ShaderRecords.Proofs.Extraction.Failing
import ShaderRecords.Proofs.Extraction.Numbering
import ShaderRecords.Proofs.Extraction.Flattening
import ShaderRecords.Proofs.Debug.Dispatch
import ShaderRecords.Proofs.Product.Families
import ShaderRecords.Proofs.Product.Rendering
import ShaderRecords.Proofs.Extraction.Declarations
import ShaderRecords.Proofs.Binding.Twin
import ShaderRecords.Proofs.Files.Atomicity
import ShaderRecords.Proofs.Product.Labels
import ShaderRecords.Proofs.Binding.Chain
import ShaderRecords.Proofs.Description.NormalForm
import ShaderRecords.Proofs.Run.Version
import ShaderRecords.Proofs.Include.ReadBack
import ShaderRecords.Proofs.Identifier.Words

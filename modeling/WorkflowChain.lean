import WorkflowChain.Compile.Assembly
import WorkflowChain.Compile.Compilation
import WorkflowChain.Compile.Settings
import WorkflowChain.Compile.Sink
import WorkflowChain.Data.Datum
import WorkflowChain.Data.Decode
import WorkflowChain.Data.DecodeError
import WorkflowChain.Data.Table
import WorkflowChain.Data.Value
import WorkflowChain.Decimal.Double
import WorkflowChain.Decimal.Fraction
import WorkflowChain.Decimal.Layout
import WorkflowChain.Decimal.Shortest
import WorkflowChain.Execution.Chain
import WorkflowChain.Execution.Slot
import WorkflowChain.Iri
import WorkflowChain.Json.Number
import WorkflowChain.Json.Printer
import WorkflowChain.Json.Reader
import WorkflowChain.Knowledge.Document
import WorkflowChain.Knowledge.Entry
import WorkflowChain.Knowledge.Store
import WorkflowChain.Knowledge.Tool
import WorkflowChain.Main
import WorkflowChain.Pipeline.Adapter
import WorkflowChain.Pipeline.Fragment
import WorkflowChain.Pipeline.Stage
import WorkflowChain.Pipeline.Template
import WorkflowChain.Proofs.Workflow.Position
import WorkflowChain.Shell.Arguments
import WorkflowChain.Shell.FileTree
import WorkflowChain.Shell.Session
import WorkflowChain.Text.Quoted
import WorkflowChain.Text.ShellWords
import WorkflowChain.Text.Split
import WorkflowChain.Workflow.Description
import WorkflowChain.Workflow.Graph
import WorkflowChain.Workflow.Node
import WorkflowChain.Yaml.BlockScalar
import WorkflowChain.Yaml.Character
import WorkflowChain.Yaml.Cursor
import WorkflowChain.Yaml.FlowScalar
import WorkflowChain.Yaml.Printer
import WorkflowChain.Yaml.Reader
import WorkflowChain.Yaml.Scalar
import WorkflowChain.Yaml.Tag
import WorkflowChain.Yaml.Token
import WorkflowChain.Yaml.Tree
import WorkflowChain.Proofs.Success
import WorkflowChain.Proofs.Workflow.NodeAt
import WorkflowChain.Proofs.Workflow.Branch
import WorkflowChain.Proofs.Workflow.Layout
import WorkflowChain.Proofs.Compile.ChainLayout
import WorkflowChain.Proofs.Compile.Assembly
import WorkflowChain.Proofs.Compile.SlotFlow
import WorkflowChain.Proofs.Compile.OutputBinding
import WorkflowChain.Proofs.Pipeline.Decoration
import WorkflowChain.Proofs.Compile.StageName
import WorkflowChain.Proofs.Compile.FragmentStages
import WorkflowChain.Proofs.Compile.InputFiles
import WorkflowChain.Proofs.Compile.Collection
import WorkflowChain.Proofs.Compile.Supply
import WorkflowChain.Proofs.Knowledge.Population
import WorkflowChain.Proofs.Pipeline.Pipe
import WorkflowChain.Proofs.Compile.PipeOrder
import WorkflowChain.Proofs.Compile.DistinctNames
import WorkflowChain.Proofs.Compile.FinalFragment
import WorkflowChain.Proofs.Alike
import WorkflowChain.Proofs.Compile.Agreement
import WorkflowChain.Proofs.Knowledge.Vocabulary
import WorkflowChain.Proofs.Compile.CompactKeys
import WorkflowChain.Proofs.Compile.Locality
import WorkflowChain.Proofs.Compile.SameWork
import WorkflowChain.Proofs.Compile.Resolution
import WorkflowChain.Proofs.Compile.SlotWriters
import WorkflowChain.Proofs.Compile.SuppliedStages
import WorkflowChain.Proofs.Compile.Documents
import WorkflowChain.Proofs.Knowledge.Resources
import WorkflowChain.Proofs.Knowledge.Contents
import WorkflowChain.Proofs.Knowledge.Repopulation
import WorkflowChain.Proofs.Pipeline.Redecoration
import WorkflowChain.Proofs.Pipeline.RequiredAdapters
import WorkflowChain.Proofs.Pipeline.RelatedStages
import WorkflowChain.Proofs.Compile.TargetStore
import WorkflowChain.Proofs.Shell.FolderWrites
import WorkflowChain.Proofs.Shell.CompileCommand
import WorkflowChain.Proofs.Workflow.Dependencies
import WorkflowChain.Proofs.Workflow.Faults
import WorkflowChain.Proofs.Workflow.Acceptance
import WorkflowChain.Proofs.Compile.Datasets
import WorkflowChain.Proofs.Data.Fields
import WorkflowChain.Proofs.Knowledge.ArtifactKeys
import WorkflowChain.Proofs.Knowledge.Acceptance
import WorkflowChain.Proofs.Knowledge.NativeTypes
import WorkflowChain.Proofs.Knowledge.ResourceTypes
import WorkflowChain.Proofs.Compile.PlainPipelines
import WorkflowChain.Proofs.Knowledge.DescriptorForm
import WorkflowChain.Proofs.Knowledge.OutputOrder
import WorkflowChain.Proofs.Compile.FinalDatasets
import WorkflowChain.Proofs.Workflow.DescriptionForm
import WorkflowChain.Proofs.Knowledge.EntryForm
import WorkflowChain.Proofs.Execution.ChainForm
import WorkflowChain.Proofs.Compile.ChainDocument
import WorkflowChain.Proofs.Text.CommandLine
import WorkflowChain.Proofs.Shell.Spellings
import WorkflowChain.Proofs.Knowledge.EntryShape

import ApiGraph.Build
import ApiGraph.CommandLine
import ApiGraph.CommandLine.Arguments
import ApiGraph.CommandLine.Building
import ApiGraph.CommandLine.FileTree
import ApiGraph.CommandLine.Help
import ApiGraph.CommandLine.Listing
import ApiGraph.CommandLine.System
import ApiGraph.Config
import ApiGraph.Conversion.Operation
import ApiGraph.Conversion.Outline
import ApiGraph.Conversion.Progress
import ApiGraph.Conversion.Schema
import ApiGraph.Decimal.Binary64
import ApiGraph.Decimal.Shortest
import ApiGraph.Dependency.Graph
import ApiGraph.Dependency.Order
import ApiGraph.Document
import ApiGraph.Document.Reader
import ApiGraph.Document.Schema
import ApiGraph.Entries
import ApiGraph.Handler
import ApiGraph.Json
import ApiGraph.Json.Numeral
import ApiGraph.Json.Printer
import ApiGraph.Json.Text
import ApiGraph.Json.Token
import ApiGraph.Main
import ApiGraph.NameMap
import ApiGraph.Partition
import ApiGraph.Pointer
import ApiGraph.Proofs.Chain
import ApiGraph.Proofs.Conversion.Components
import ApiGraph.Proofs.Conversion.Faithful
import ApiGraph.Proofs.Conversion.Operation
import ApiGraph.Proofs.Conversion.Translation
import ApiGraph.Proofs.Conversion.Walk
import ApiGraph.Proofs.Dependency.Closing
import ApiGraph.Proofs.Dependency.Exploration
import ApiGraph.Proofs.Dependency.Groups
import ApiGraph.Proofs.Dependency.Order
import ApiGraph.Proofs.Dependency.Reachability
import ApiGraph.Proofs.Dependency.Search
import ApiGraph.Proofs.NameMap
import ApiGraph.Proofs.Ownership
import ApiGraph.Proofs.Partition.Assignment
import ApiGraph.Proofs.Partition.Ownership
import ApiGraph.Proofs.Partition.Reach
import ApiGraph.Proofs.Registry
import ApiGraph.Proofs.Types
import ApiGraph.Registry
import ApiGraph.Report
import ApiGraph.Source.Data
import ApiGraph.Source.Form
import ApiGraph.Source.Format
import ApiGraph.Source.Node
import ApiGraph.Statistics
import ApiGraph.Step
import ApiGraph.Terminal.Palette
import ApiGraph.Terminal.Table
import ApiGraph.Text
import ApiGraph.Text.CharWidth
import ApiGraph.Text.DisplayWidth
import ApiGraph.Text.Emoji
import ApiGraph.Text.LetterCase
import ApiGraph.Text.Path
import ApiGraph.Types
import ApiGraph.Yaml.Composition
import ApiGraph.Yaml.Input
import ApiGraph.Yaml.Property
import ApiGraph.Yaml.Resolution
import ApiGraph.Yaml.ScalarText
import ApiGraph.Yaml.Scanner
import ApiGraph.Yaml.Text
import ApiGraph.Yaml.Token
import ApiGraph.Proofs.Conversion.Support
import ApiGraph.Proofs.Conversion.Success
import ApiGraph.Proofs.Conversion.OperationSuccess
import ApiGraph.Proofs.Success
import ApiGraph.Proofs.Conversion.Tally
import ApiGraph.Proofs.Conversion.Complete
import ApiGraph.Proofs.Renaming
import ApiGraph.Proofs.Conversion.Handlers
import ApiGraph.Proofs.Partition.Contents
import ApiGraph.Proofs.Build
import ApiGraph.Proofs.Modules
import ApiGraph.Proofs.Renumbering.Order
import ApiGraph.Proofs.Renumbering.Partition
import ApiGraph.Proofs.Renumbering.Build
import ApiGraph.Proofs.Renumbering.Report
import ApiGraph.Proofs.Matching
import ApiGraph.Proofs.Redirection.Operation
import ApiGraph.Proofs.Redirection.Document
import ApiGraph.Proofs.DeclarationOrder
import ApiGraph.Proofs.AliasTransparency
import ApiGraph.Proofs.Reassignment
import ApiGraph.Proofs.Conversion.InlineTypes
import ApiGraph.Proofs.Statistics
import ApiGraph.Proofs.Conversion.Calls
import ApiGraph.Proofs.Conversion.Termination
import ApiGraph.Proofs.Conversion.History
import ApiGraph.Proofs.Conversion.Diagnosis
import ApiGraph.Proofs.Diagnoses
import ApiGraph.Proofs.Conversion.Frozen
import ApiGraph.Proofs.ClosedReport
import ApiGraph.Proofs.Paths
import ApiGraph.Proofs.Decoding
import ApiGraph.Proofs.Pages
import ApiGraph.Proofs.Handlers
import ApiGraph.Proofs.Dependency.PlainSearch
import ApiGraph.Proofs.CanonicalOrder
import ApiGraph.Proofs.Conversion.Accesses
import ApiGraph.Proofs.Checked.Order
import ApiGraph.Proofs.Checked.Partition
import ApiGraph.Proofs.Checked.Report
import ApiGraph.Proofs.Checked.Build
import ApiGraph.Proofs.Resolution
import ApiGraph.Proofs.Parameters
import ApiGraph.Proofs.Descriptions
import ApiGraph.Proofs.PropertyOrder
import ApiGraph.Proofs.Pointer
import ApiGraph.Proofs.RegistryHistory
import ApiGraph.Proofs.Records
import ApiGraph.Proofs.SchemaReader
import ApiGraph.Proofs.Places
import ApiGraph.Proofs.Edits
import ApiGraph.Proofs.CommandLine

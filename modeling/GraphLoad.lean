import GraphLoad.CommandLine.Arguments
import GraphLoad.CommandLine.Command
import GraphLoad.Cypher.Clause
import GraphLoad.Cypher.CompileError
import GraphLoad.Cypher.Constraint
import GraphLoad.Cypher.ConstraintName
import GraphLoad.Cypher.Name
import GraphLoad.Cypher.RowValue
import GraphLoad.Cypher.Script
import GraphLoad.Cypher.Statement
import GraphLoad.Document.FaultDocument
import GraphLoad.Document.Format
import GraphLoad.Document.LoadDocument
import GraphLoad.Document.ModelDocument
import GraphLoad.Document.TextFormat
import GraphLoad.Document.Tree
import GraphLoad.Document.Value
import GraphLoad.Json.Reader
import GraphLoad.Json.Token
import GraphLoad.Json.Writer
import GraphLoad.Loading.Compiler
import GraphLoad.Loading.Files
import GraphLoad.Loading.Manifest
import GraphLoad.Loading.Options
import GraphLoad.Main
import GraphLoad.Proofs.CommandLine.Layers
import GraphLoad.Proofs.CommandLine.Listing
import GraphLoad.Proofs.CommandLine.Words
import GraphLoad.Proofs.Cypher.Body
import GraphLoad.Proofs.Cypher.BulkStatement
import GraphLoad.Proofs.Cypher.Comment
import GraphLoad.Proofs.Cypher.ConstraintList
import GraphLoad.Proofs.Cypher.ConstraintName
import GraphLoad.Proofs.Cypher.ConstraintOutcome
import GraphLoad.Proofs.Cypher.ConstraintText
import GraphLoad.Proofs.Cypher.FileLiteral
import GraphLoad.Proofs.Cypher.Inert
import GraphLoad.Proofs.Cypher.Obstacles
import GraphLoad.Proofs.Cypher.OpenRowFiles
import GraphLoad.Proofs.Cypher.Quoted
import GraphLoad.Proofs.Cypher.Recast
import GraphLoad.Proofs.Cypher.Script
import GraphLoad.Proofs.Cypher.SharedConstraints
import GraphLoad.Proofs.Cypher.Unambiguous
import GraphLoad.Proofs.Document.ModelDocument
import GraphLoad.Proofs.Document.ReadBack
import GraphLoad.Proofs.Document.Respelling
import GraphLoad.Proofs.Json.RoundTrip
import GraphLoad.Proofs.Json.Token
import GraphLoad.Proofs.Loading.ColumnCheck
import GraphLoad.Proofs.Loading.DeclarationOrder
import GraphLoad.Proofs.Loading.EndpointKeys
import GraphLoad.Proofs.Loading.Environment
import GraphLoad.Proofs.Loading.ExplicitFiles
import GraphLoad.Proofs.Loading.FileNames
import GraphLoad.Proofs.Loading.FilesReject
import GraphLoad.Proofs.Loading.Gate
import GraphLoad.Proofs.Loading.Loads
import GraphLoad.Proofs.Loading.Merges
import GraphLoad.Proofs.Loading.Recast
import GraphLoad.Proofs.Loading.ScriptSplit
import GraphLoad.Proofs.Loading.SelfRelationships
import GraphLoad.Proofs.Loading.SourceNames
import GraphLoad.Proofs.Loading.Strategies
import GraphLoad.Proofs.Loading.SubmissionOptions
import GraphLoad.Proofs.Loading.UndeclaredFiles
import GraphLoad.Proofs.Loading.Untyped
import GraphLoad.Proofs.Rearrange
import GraphLoad.Proofs.Schema.Blocking
import GraphLoad.Proofs.Schema.Consistent
import GraphLoad.Proofs.Schema.DuplicateFaults
import GraphLoad.Proofs.Schema.MoreColumns
import GraphLoad.Proofs.Schema.Plan
import GraphLoad.Proofs.Schema.Probe
import GraphLoad.Proofs.Schema.Readable
import GraphLoad.Proofs.Schema.Recast
import GraphLoad.Proofs.Schema.Reorder
import GraphLoad.Proofs.Schema.Repeats
import GraphLoad.Proofs.Schema.SourceFiles
import GraphLoad.Proofs.Schema.StructuralFaults
import GraphLoad.Proofs.Schema.Undeclared
import GraphLoad.Proofs.Schema.Versions
import GraphLoad.Proofs.Text.Blank
import GraphLoad.Proofs.Text.ByteOrder
import GraphLoad.Proofs.Text.Count
import GraphLoad.Proofs.Text.NameMap
import GraphLoad.Proofs.Text.Unambiguous
import GraphLoad.Proofs.Traversal
import GraphLoad.Schema.Check
import GraphLoad.Schema.Column
import GraphLoad.Schema.Fault
import GraphLoad.Schema.Graph
import GraphLoad.Schema.Resolve
import GraphLoad.Schema.RowFile
import GraphLoad.Schema.SourceFiles
import GraphLoad.Schema.ValueType
import GraphLoad.Schema.Versions
import GraphLoad.Text.Blank
import GraphLoad.Text.Count
import GraphLoad.Text.NameMap
import GraphLoad.Yaml.Block
import GraphLoad.Yaml.Char
import GraphLoad.Yaml.Folding
import GraphLoad.Yaml.Label
import GraphLoad.Yaml.Layout
import GraphLoad.Yaml.Meaning
import GraphLoad.Yaml.Node
import GraphLoad.Yaml.Part
import GraphLoad.Yaml.Place
import GraphLoad.Yaml.Plain
import GraphLoad.Yaml.Quoted
import GraphLoad.Yaml.Reader
import GraphLoad.Yaml.Token
import GraphLoad.Yaml.Writer

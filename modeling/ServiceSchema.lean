import ServiceSchema.Annotation.Basic
import ServiceSchema.Annotation.Evaluation
import ServiceSchema.Annotation.Expression
import ServiceSchema.Annotation.Form
import ServiceSchema.Annotation.Signature
import ServiceSchema.Annotation.Source
import ServiceSchema.Annotation.Value
import ServiceSchema.Class.Assembly
import ServiceSchema.Class.Declaration
import ServiceSchema.Class.Description
import ServiceSchema.Class.Enumeration
import ServiceSchema.Class.Fields
import ServiceSchema.Class.Hints
import ServiceSchema.Class.Id
import ServiceSchema.Class.Resolver
import ServiceSchema.Class.Service
import ServiceSchema.Class.Standard
import ServiceSchema.Class.Subtypes
import ServiceSchema.Class.Target
import ServiceSchema.Class.Universe
import ServiceSchema.Command.Arguments
import ServiceSchema.Command.Generate
import ServiceSchema.Command.Help
import ServiceSchema.Command.Inspect
import ServiceSchema.Command.Misuse
import ServiceSchema.Command.Program
import ServiceSchema.Command.Run
import ServiceSchema.Command.Stop
import ServiceSchema.Command.Verb
import ServiceSchema.Document.Basic
import ServiceSchema.Document.Conversion
import ServiceSchema.Document.File
import ServiceSchema.Document.Load
import ServiceSchema.Document.Reader
import ServiceSchema.File.Path
import ServiceSchema.File.Tree
import ServiceSchema.Json.Basic
import ServiceSchema.Json.Printer
import ServiceSchema.Json.Reader
import ServiceSchema.Json.Table
import ServiceSchema.Log.Defaults
import ServiceSchema.Log.Event
import ServiceSchema.Log.Journal
import ServiceSchema.Log.Level
import ServiceSchema.Log.Logger
import ServiceSchema.Log.Report
import ServiceSchema.Log.Session
import ServiceSchema.Main
import ServiceSchema.Number.Binary64
import ServiceSchema.Number.Decimal
import ServiceSchema.Number.Numeral
import ServiceSchema.Number.Shortest
import ServiceSchema.Schema.Basic
import ServiceSchema.Schema.Generate
import ServiceSchema.Schema.Json
import ServiceSchema.Schema.Output
import ServiceSchema.Settings.Basic
import ServiceSchema.Settings.Environment
import ServiceSchema.Signature.Basic
import ServiceSchema.Spec.Basic
import ServiceSchema.Spec.Error
import ServiceSchema.Spec.References
import ServiceSchema.Terminal.Line
import ServiceSchema.Terminal.Table
import ServiceSchema.Text.Case
import ServiceSchema.Text.Character
import ServiceSchema.Text.Encoded
import ServiceSchema.Text.PrintableTable
import ServiceSchema.Text.Quoted
import ServiceSchema.Text.Similarity
import ServiceSchema.Text.UpperTable
import ServiceSchema.Text.Width
import ServiceSchema.Text.WidthTable
import ServiceSchema.Text.WordTable
import ServiceSchema.TypeText.Parser
import ServiceSchema.TypeText.Token
import ServiceSchema.Validation.Basic
import ServiceSchema.Validation.Scalars
import ServiceSchema.Yaml.Cursor
import ServiceSchema.Yaml.Fault
import ServiceSchema.Yaml.Node
import ServiceSchema.Yaml.Printer
import ServiceSchema.Yaml.Scalar
import ServiceSchema.Yaml.ScalarText
import ServiceSchema.Yaml.Token
import ServiceSchema.Yaml.Value
import ServiceSchema.Proofs.References
import ServiceSchema.Proofs.SchemaNodes
import ServiceSchema.Proofs.TypeGrammar
import ServiceSchema.Proofs.StrictDocuments
import ServiceSchema.Proofs.Classification
import ServiceSchema.Proofs.ClassDefinitions
import ServiceSchema.Proofs.Assembled
import ServiceSchema.Proofs.Discovery
import ServiceSchema.Proofs.Reachability
import ServiceSchema.Proofs.ClassReferences
import ServiceSchema.Proofs.Noninterference
import ServiceSchema.Proofs.Conversion
import ServiceSchema.Proofs.DocumentReferences
import ServiceSchema.Proofs.ScalarFaults
import ServiceSchema.Proofs.LoadErrors
import ServiceSchema.Proofs.ReferenceCoverage
import ServiceSchema.Proofs.BreadthFirst
import ServiceSchema.Proofs.Worklist
import ServiceSchema.Proofs.Builds
import ServiceSchema.Proofs.MethodDocuments
import ServiceSchema.Proofs.TypePrinting
import ServiceSchema.Proofs.FragmentContent
import ServiceSchema.Proofs.FirstMentions
import ServiceSchema.Proofs.Directories
import ServiceSchema.Proofs.CommandRuns
import ServiceSchema.Proofs.Verdicts
import ServiceSchema.Proofs.DefinitionTable
import ServiceSchema.Proofs.Identifiers
import ServiceSchema.Proofs.Unions
import ServiceSchema.Proofs.Layers
import ServiceSchema.Proofs.MarkedOptionals
import ServiceSchema.Proofs.RequiredNames
import ServiceSchema.Proofs.ListedMethods
import ServiceSchema.Proofs.ClassAgreement
import ServiceSchema.Proofs.ReferencePointers
import ServiceSchema.Proofs.ResolverChains
import ServiceSchema.Proofs.Unmarked
import ServiceSchema.Proofs.MarkedClasses
import ServiceSchema.Proofs.ClassVariables
import ServiceSchema.Proofs.TokenRounds
import ServiceSchema.Proofs.LoggerNames
import ServiceSchema.Proofs.SessionRecords
import ServiceSchema.Proofs.SessionHistories

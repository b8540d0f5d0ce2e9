import ServiceGen.Analysis.Analyzer
import ServiceGen.Analysis.Cycle
import ServiceGen.Analysis.Discovery
import ServiceGen.Analysis.Graph
import ServiceGen.Analysis.Layering
import ServiceGen.Analysis.Walk
import ServiceGen.CommandLine.Arguments
import ServiceGen.CommandLine.Program
import ServiceGen.Diagnostic
import ServiceGen.Document.Basic
import ServiceGen.Document.Model
import ServiceGen.Extraction.Decorations
import ServiceGen.Extraction.Services
import ServiceGen.Files.NamePattern
import ServiceGen.Files.Path
import ServiceGen.Files.PathPattern
import ServiceGen.Files.Tree
import ServiceGen.Generation.Artifact
import ServiceGen.Generation.Batch
import ServiceGen.Generation.Digest
import ServiceGen.Generation.Production
import ServiceGen.Generation.Stage
import ServiceGen.Generation.Writing
import ServiceGen.Grammar.Ahead
import ServiceGen.Grammar.Attribute
import ServiceGen.Grammar.Basic
import ServiceGen.Grammar.Bound
import ServiceGen.Grammar.Closed
import ServiceGen.Grammar.Data
import ServiceGen.Grammar.Expression
import ServiceGen.Grammar.Generics
import ServiceGen.Grammar.Import
import ServiceGen.Grammar.Item
import ServiceGen.Grammar.Member
import ServiceGen.Grammar.Operation
import ServiceGen.Grammar.Parameter
import ServiceGen.Grammar.Path
import ServiceGen.Grammar.Path.Plain
import ServiceGen.Grammar.Pattern
import ServiceGen.Grammar.Reader
import ServiceGen.Grammar.Signature
import ServiceGen.Grammar.Standalone
import ServiceGen.Grammar.Statement
import ServiceGen.Grammar.Type
import ServiceGen.Main
import ServiceGen.Model.Classifier
import ServiceGen.Model.Service
import ServiceGen.Naming.Names
import ServiceGen.Naming.Words
import ServiceGen.Plan.Activity
import ServiceGen.Plan.Basic
import ServiceGen.Plan.Convention
import ServiceGen.Plan.HttpService
import ServiceGen.Plan.Package
import ServiceGen.Plan.Problem
import ServiceGen.Plan.Workflow
import ServiceGen.Render.Activity
import ServiceGen.Render.Code
import ServiceGen.Render.Context
import ServiceGen.Render.Error
import ServiceGen.Render.HttpService
import ServiceGen.Render.Package
import ServiceGen.Render.Workflow.Body
import ServiceGen.Render.Workflow.Controller
import ServiceGen.Render.Workflow.Frame
import ServiceGen.Render.Workflow.Interface
import ServiceGen.Render.Workflow.Signature
import ServiceGen.Settings.Basic
import ServiceGen.Settings.EnvironmentFile
import ServiceGen.Settings.Variable
import ServiceGen.Source.Declaration
import ServiceGen.Source.Loading
import ServiceGen.Source.PackageName
import ServiceGen.Source.Reading
import ServiceGen.Tag.Basic
import ServiceGen.Tag.Grammar
import ServiceGen.Tag.Options
import ServiceGen.Tag.Predicate
import ServiceGen.Tag.Scan
import ServiceGen.Text.Blank
import ServiceGen.Text.Identifier
import ServiceGen.Text.LetterCase
import ServiceGen.Text.Lines
import ServiceGen.Text.Number
import ServiceGen.Text.Printable
import ServiceGen.Text.Quoted
import ServiceGen.Text.Stretch
import ServiceGen.Token.Basic
import ServiceGen.Token.Lexeme
import ServiceGen.Token.Lexer
import ServiceGen.Token.Literal
import ServiceGen.Token.Printer
import ServiceGen.Token.Quotation
import ServiceGen.Proofs.Analysis.Results
import ServiceGen.Proofs.Analysis.Discovery
import ServiceGen.Proofs.Analysis.Cycle
import ServiceGen.Proofs.Analysis.Graph
import ServiceGen.Proofs.Analysis.Chronicle
import ServiceGen.Proofs.Analysis.Interleaving
import ServiceGen.Proofs.Analysis.Execution
import ServiceGen.Proofs.Analysis.Outcome
import ServiceGen.Proofs.Plan.Constants
import ServiceGen.Proofs.Plan.Sites
import ServiceGen.Proofs.Plan.Resolution
import ServiceGen.Proofs.Plan.Agreement
import ServiceGen.Proofs.Plan.MethodNames
import ServiceGen.Proofs.Naming.LetterCase
import ServiceGen.Proofs.Extraction.Provenance
import ServiceGen.Proofs.Naming.Ending
import ServiceGen.Proofs.Render.Items
import ServiceGen.Proofs.Plan.Types
import ServiceGen.Proofs.Render.Types
import ServiceGen.Proofs.Plan.ItemNames
import ServiceGen.Proofs.Plan.DistinctItems
import ServiceGen.Proofs.Analysis.Failure
import ServiceGen.Proofs.Analysis.Closure
import ServiceGen.Proofs.Plan.Strictness
import ServiceGen.Proofs.Extraction.Marker
import ServiceGen.Proofs.Plan.Marker
import ServiceGen.Proofs.Generation.Marker
import ServiceGen.Proofs.Files.Path
import ServiceGen.Proofs.Files.Tree
import ServiceGen.Proofs.Files.Search
import ServiceGen.Proofs.Files.Growth
import ServiceGen.Proofs.Source.Loading
import ServiceGen.Proofs.Generation.Production
import ServiceGen.Proofs.Generation.Batch
import ServiceGen.Proofs.Token.Lexeme
import ServiceGen.Proofs.Token.Quotation
import ServiceGen.Proofs.Token.Printing
import ServiceGen.Proofs.Grammar.PlainType
import ServiceGen.Proofs.Grammar.Reader
import ServiceGen.Proofs.Grammar.Path
import ServiceGen.Proofs.Grammar.Type
import ServiceGen.Proofs.Grammar.Plain
import ServiceGen.Proofs.Generation.Modes
import ServiceGen.Proofs.Files.Descent
import ServiceGen.Proofs.Source.Below
import ServiceGen.Proofs.Generation.Placement
import ServiceGen.Proofs.Source.Everything
import ServiceGen.Proofs.Analysis.Reach
import ServiceGen.Proofs.Analysis.Depth
import ServiceGen.Proofs.Generation.Models
import ServiceGen.Proofs.Grammar.SteadyItem
import ServiceGen.Proofs.Source.Layout
import ServiceGen.Proofs.Source.Parsing
import ServiceGen.Proofs.Plan.Places
import ServiceGen.Proofs.Generation.Layout
import ServiceGen.Proofs.Analysis.Order
import ServiceGen.Proofs.Extraction.Acceptance
import ServiceGen.Proofs.Plan.Breaches
import ServiceGen.Proofs.Plan.LeftOut
import ServiceGen.Proofs.Plan.Fates
import ServiceGen.Proofs.Tag.Grammar
import ServiceGen.Proofs.Tag.Canonical
import ServiceGen.Proofs.Tag.Repetition
import ServiceGen.Proofs.Tag.Scan
import ServiceGen.Proofs.Settings.Marker
import ServiceGen.Proofs.Render.Refusal
import ServiceGen.Proofs.Render.Coverage
import ServiceGen.Proofs.Render.Waiting
import ServiceGen.Proofs.Render.Calls
import ServiceGen.Proofs.Plan.References
import ServiceGen.Proofs.Plan.Shares
import ServiceGen.Proofs.Source.Patterns
import ServiceGen.Proofs.Plan.Routes
import ServiceGen.Proofs.Source.Spelling
import ServiceGen.Proofs.CommandLine.Precedence
import ServiceGen.Proofs.Text.Words
import ServiceGen.Proofs.Grammar.Documentation
import ServiceGen.Proofs.Source.Documentation
import ServiceGen.Proofs.Token.Word
import ServiceGen.Proofs.Grammar.Placed
import ServiceGen.Proofs.Grammar.Code.Type
import ServiceGen.Proofs.Grammar.Code.Expression
import ServiceGen.Proofs.Grammar.Code.Statement
import ServiceGen.Proofs.Grammar.Code.Item
import ServiceGen.Proofs.Render.Syntax.Fragments
import ServiceGen.Proofs.Render.Syntax.Service
import ServiceGen.Proofs.Render.Syntax.Workflow.Signature
import ServiceGen.Proofs.Render.Syntax.Workflow.Interface
import ServiceGen.Proofs.Render.Syntax.Workflow.Controller
import ServiceGen.Proofs.Render.Syntax.Package
import ServiceGen.Proofs.Generation.Syntax

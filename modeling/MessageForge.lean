import MessageForge.Code.Layout
import MessageForge.Command.Execution
import MessageForge.Command.Options
import MessageForge.Declaration
import MessageForge.Diagnostic
import MessageForge.Draft
import MessageForge.Event
import MessageForge.Failure
import MessageForge.Main
import MessageForge.Message.Category
import MessageForge.Message.Derivation
import MessageForge.Message.Fields
import MessageForge.Message.Members
import MessageForge.Message.Method
import MessageForge.Message.Template
import MessageForge.Number.Binary64
import MessageForge.Number.Shortest
import MessageForge.Proofs.AbsolutePaths
import MessageForge.Proofs.Acceptance
import MessageForge.Proofs.Additions
import MessageForge.Proofs.Agreement
import MessageForge.Proofs.Allocation
import MessageForge.Proofs.Bindings
import MessageForge.Proofs.BlockGroups
import MessageForge.Proofs.Blocks
import MessageForge.Proofs.CallTrees
import MessageForge.Proofs.CarriedNames
import MessageForge.Proofs.Category
import MessageForge.Proofs.Checks
import MessageForge.Proofs.Clashes
import MessageForge.Proofs.ClassNames
import MessageForge.Proofs.ClassParts
import MessageForge.Proofs.ClassRows
import MessageForge.Proofs.Classification
import MessageForge.Proofs.Cleaning
import MessageForge.Proofs.Collisions
import MessageForge.Proofs.Concatenation
import MessageForge.Proofs.Conformity
import MessageForge.Proofs.Construction
import MessageForge.Proofs.ConstructorRows
import MessageForge.Proofs.Contributions
import MessageForge.Proofs.Creation
import MessageForge.Proofs.Depth
import MessageForge.Proofs.Derivability
import MessageForge.Proofs.DiagnosticPlaces
import MessageForge.Proofs.Disks
import MessageForge.Proofs.DraftHistories
import MessageForge.Proofs.Edits
import MessageForge.Proofs.Evaluation
import MessageForge.Proofs.Exclusions
import MessageForge.Proofs.Executions
import MessageForge.Proofs.Expressions
import MessageForge.Proofs.Faults
import MessageForge.Proofs.FileContents
import MessageForge.Proofs.Formatting
import MessageForge.Proofs.Generation
import MessageForge.Proofs.Globs
import MessageForge.Proofs.Growth
import MessageForge.Proofs.Headers
import MessageForge.Proofs.Histories
import MessageForge.Proofs.ImportReading
import MessageForge.Proofs.Imports
import MessageForge.Proofs.Independence
import MessageForge.Proofs.Interchange
import MessageForge.Proofs.Jobs
import MessageForge.Proofs.Layouts
import MessageForge.Proofs.Lexing
import MessageForge.Proofs.Lines
import MessageForge.Proofs.Literals
import MessageForge.Proofs.Loading
import MessageForge.Proofs.MemberRows
import MessageForge.Proofs.Members
import MessageForge.Proofs.Messages
import MessageForge.Proofs.Methods
import MessageForge.Proofs.ModuleRows
import MessageForge.Proofs.Movement
import MessageForge.Proofs.Outcome
import MessageForge.Proofs.OutputDirectory
import MessageForge.Proofs.Outputs
import MessageForge.Proofs.Parameters
import MessageForge.Proofs.Paths
import MessageForge.Proofs.PseudoFields
import MessageForge.Proofs.Readers
import MessageForge.Proofs.Readings
import MessageForge.Proofs.Rearrangements
import MessageForge.Proofs.Refusal
import MessageForge.Proofs.Removal
import MessageForge.Proofs.Replays
import MessageForge.Proofs.Reports
import MessageForge.Proofs.Reruns
import MessageForge.Proofs.Rows
import MessageForge.Proofs.SchemaAnnotations
import MessageForge.Proofs.SchemaClassification
import MessageForge.Proofs.SchemaEvolution
import MessageForge.Proofs.SchemaOutlines
import MessageForge.Proofs.Searches
import MessageForge.Proofs.Selections
import MessageForge.Proofs.Separation
import MessageForge.Proofs.Spellings
import MessageForge.Proofs.Statements
import MessageForge.Proofs.Steps
import MessageForge.Proofs.Trees
import MessageForge.Proofs.Validity
import MessageForge.Schema.Compilation
import MessageForge.Schema.Declarations
import MessageForge.Schema.Grammar
import MessageForge.Schema.Lexer
import MessageForge.Schema.Library
import MessageForge.Schema.Names
import MessageForge.Schema.Node
import MessageForge.Schema.Nodes
import MessageForge.Schema.Resolution
import MessageForge.Schema.Syntax
import MessageForge.Schema.Token
import MessageForge.Schema.Types
import MessageForge.Schema.Values
import MessageForge.Session.Annotation
import MessageForge.Session.Class
import MessageForge.Session.Evaluation
import MessageForge.Session.Step
import MessageForge.Session.Value
import MessageForge.Source.Characters
import MessageForge.Source.Declarations
import MessageForge.Source.Grammar.Expressions
import MessageForge.Source.Grammar.Formatted
import MessageForge.Source.Grammar.Operand
import MessageForge.Source.Grammar.Patterns
import MessageForge.Source.Grammar.Statements
import MessageForge.Source.Imports
import MessageForge.Source.Keyword
import MessageForge.Source.Lexer
import MessageForge.Source.Numeral
import MessageForge.Source.Printer
import MessageForge.Source.Reader
import MessageForge.Source.Scopes
import MessageForge.Source.Syntax
import MessageForge.Source.Token
import MessageForge.Text.Basic
import MessageForge.Text.Blank
import MessageForge.Text.CompositionTable
import MessageForge.Text.Digit
import MessageForge.Text.Identifier
import MessageForge.Text.IdentifierTable
import MessageForge.Text.Lines
import MessageForge.Text.NormalForm
import MessageForge.Text.Printable
import MessageForge.Text.PrintableTable
import MessageForge.Text.Quoted
import MessageForge.Text.Utf8
import MessageForge.Vocabulary
import MessageForge.Workspace.Checking
import MessageForge.Workspace.Disk
import MessageForge.Workspace.Formatting
import MessageForge.Workspace.Job
import MessageForge.Workspace.Path
import MessageForge.Workspace.Placement
import MessageForge.Workspace.Program
import MessageForge.Workspace.Reading
import MessageForge.Workspace.Run
import MessageForge.Workspace.Search
import MessageForge.Workspace.Wildcard

import Colloquy.Block
import Colloquy.Chunk.Section
import Colloquy.Chunk.Split
import Colloquy.Command.Execute
import Colloquy.Command.Failure
import Colloquy.Command.Line
import Colloquy.Command.Usage
import Colloquy.Configuration
import Colloquy.Configuration.Load
import Colloquy.Configuration.Read
import Colloquy.Decimal
import Colloquy.Dialogue
import Colloquy.Files
import Colloquy.FrontEnd
import Colloquy.Http
import Colloquy.Index
import Colloquy.Index.Collection
import Colloquy.Index.Directory
import Colloquy.Index.Embedding
import Colloquy.Json
import Colloquy.Json.Parse
import Colloquy.Json.Print
import Colloquy.Json.Record
import Colloquy.Main
import Colloquy.Message
import Colloquy.Pattern
import Colloquy.Pattern.CharSet
import Colloquy.Pattern.Error
import Colloquy.Pattern.Expr
import Colloquy.Pattern.Parse
import Colloquy.Provider
import Colloquy.Provider.Ollama
import Colloquy.Provider.OpenAi
import Colloquy.Run.Error
import Colloquy.Run.Identifier
import Colloquy.Run.Moment
import Colloquy.Run.Record
import Colloquy.Run.Report
import Colloquy.Run.Runner
import Colloquy.Script
import Colloquy.Script.Capture
import Colloquy.Service
import Colloquy.Snippet
import Colloquy.Snippet.Document
import Colloquy.Snippet.Extract
import Colloquy.Snippet.Merge
import Colloquy.Template
import Colloquy.Template.Render
import Colloquy.Terminal.Conversation
import Colloquy.Terminal.Notice
import Colloquy.Terminal.Style
import Colloquy.Terminal.Summary
import Colloquy.Text.Blank
import Colloquy.Text.Bytes
import Colloquy.Text.Hex
import Colloquy.Text.Line
import Colloquy.Text.Quoted
import Colloquy.Toml.Layout
import Colloquy.Toml.Parse
import Colloquy.Toml.Scalar
import Colloquy.Toml.Value
import Colloquy.Transcript
import Colloquy.Transcript.Pruning
import Colloquy.Unicode.Category
import Colloquy.Unicode.Compatibility
import Colloquy.Unicode.Composition
import Colloquy.Unicode.Folding
import Colloquy.Unicode.Grapheme
import Colloquy.Unicode.Property
import Colloquy.Unicode.Script
import Colloquy.Unicode.Segment
import Colloquy.Unicode.Sentence
import Colloquy.Unicode.Table
import Colloquy.Unicode.Word
import Colloquy.Url
import Colloquy.Url.Address
import Colloquy.Url.Domain
import Colloquy.Url.Parse
import Colloquy.Url.Percent
import Colloquy.Url.Punycode
import Colloquy.Variables
import Colloquy.Variables.File
import Colloquy.Workflow.Body
import Colloquy.Workflow.Document
import Colloquy.Workflow.Error
import Colloquy.Workflow.File
import Colloquy.Workflow.Load
import Colloquy.Workflow.Program
import Colloquy.Yaml.Cursor
import Colloquy.Yaml.Error
import Colloquy.Yaml.Node
import Colloquy.Yaml.Scalar
import Colloquy.Yaml.Token
import Colloquy.Yaml.Value
import Colloquy.Proofs.Results
import Colloquy.Proofs.Dialogue.Course
import Colloquy.Proofs.Dialogue.Law
import Colloquy.Proofs.Template.Reading
import Colloquy.Proofs.Workflow.Grammar
import Colloquy.Proofs.Workflow.Actions
import Colloquy.Proofs.Workflow.Conditions
import Colloquy.Proofs.Workflow.Loading
import Colloquy.Proofs.Run.Rules
import Colloquy.Proofs.Run.Safety
import Colloquy.Proofs.Run.Ledger
import Colloquy.Proofs.Run.Judgement
import Colloquy.Proofs.Snippet.Touching
import Colloquy.Proofs.Snippet.Groups
import Colloquy.Proofs.Snippet.Merging
import Colloquy.Proofs.Snippet.Components
import Colloquy.Proofs.Run.Limits
import Colloquy.Proofs.Run.Failure
import Colloquy.Proofs.Transcript.History
import Colloquy.Proofs.Transcript.Budget
import Colloquy.Proofs.Transcript.Return
import Colloquy.Proofs.Run.Provenance
import Colloquy.Proofs.Dialogue.Comparison
import Colloquy.Proofs.Run.Comparison
import Colloquy.Proofs.Run.Interleaving
import Colloquy.Proofs.Run.Blocks
import Colloquy.Proofs.Run.Joint
import Colloquy.Proofs.Run.Quiet
import Colloquy.Proofs.Run.Extracts
import Colloquy.Proofs.Chunk.Stretches
import Colloquy.Proofs.FrontEnd.Numbering
import Colloquy.Proofs.Index.Stored
import Colloquy.Proofs.Snippet.Pages
import Colloquy.Proofs.Index.Retrieval
import Colloquy.Proofs.FrontEnd.Presentation
import Colloquy.Proofs.Index.Entries
import Colloquy.Proofs.Index.Additions
import Colloquy.Proofs.Index.Labels
import Colloquy.Proofs.Index.Revision
import Colloquy.Proofs.Transcript.Selection
import Colloquy.Proofs.Block.Scan
import Colloquy.Proofs.Block.Fenced
import Colloquy.Proofs.Template.Refusal
import Colloquy.Proofs.Workflow.Faults
import Colloquy.Proofs.Workflow.Shapes
import Colloquy.Proofs.Workflow.Rejection
import Colloquy.Proofs.Template.Rendering
import Colloquy.Proofs.Snippet.ReadBack
import Colloquy.Proofs.Script.Truncation
import Colloquy.Proofs.Url.Name
import Colloquy.Proofs.Url.Host
import Colloquy.Proofs.Url.Reading
import Colloquy.Proofs.Provider.Endpoint

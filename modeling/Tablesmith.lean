import Tablesmith.Calendar
import Tablesmith.CommandLine.Arguments
import Tablesmith.CommandLine.Flag
import Tablesmith.CommandLine.Run
import Tablesmith.CommandLine.Token
import Tablesmith.Config.Basic
import Tablesmith.Config.Cache
import Tablesmith.Config.File
import Tablesmith.Disk
import Tablesmith.Fault
import Tablesmith.Incident
import Tablesmith.Instant
import Tablesmith.Json.Form
import Tablesmith.Json.Printer
import Tablesmith.Json.Reader
import Tablesmith.Log.Level
import Tablesmith.Log.Record
import Tablesmith.Log.Report
import Tablesmith.Log.Setup
import Tablesmith.Main
import Tablesmith.Module.Check
import Tablesmith.Module.Document
import Tablesmith.Module.Draft
import Tablesmith.Module.Function
import Tablesmith.Module.Generation
import Tablesmith.Module.Plan
import Tablesmith.Module.Preamble
import Tablesmith.Module.Sample
import Tablesmith.Module.Section
import Tablesmith.Module.Settings
import Tablesmith.Module.Statement
import Tablesmith.Naming.Identifier
import Tablesmith.Naming.Label
import Tablesmith.Naming.Unique
import Tablesmith.Number.Binary64
import Tablesmith.Number.Literal
import Tablesmith.Pipeline
import Tablesmith.Proofs.Sql.Nesting
import Tablesmith.Proofs.Sql.Scan
import Tablesmith.Proofs.Sql.Writing
import Tablesmith.Proofs.Text.Blank
import Tablesmith.Schema.Basic
import Tablesmith.Schema.Document
import Tablesmith.Schema.Selection
import Tablesmith.Schema.Table
import Tablesmith.Server.Api
import Tablesmith.Server.Body
import Tablesmith.Server.Response
import Tablesmith.Server.Route
import Tablesmith.Server.Settings
import Tablesmith.Server.Target
import Tablesmith.Sql.Column
import Tablesmith.Sql.Database
import Tablesmith.Sql.Declaration
import Tablesmith.Sql.Keyword
import Tablesmith.Sql.Segment
import Tablesmith.Text.Base64
import Tablesmith.Text.Basic
import Tablesmith.Text.Blank
import Tablesmith.Text.Case
import Tablesmith.Text.CaseTable
import Tablesmith.Text.Line
import Tablesmith.Text.Literal
import Tablesmith.Text.Numeral
import Tablesmith.Text.Printable
import Tablesmith.Text.Sign
import Tablesmith.Text.Utf8
import Tablesmith.Text.Wide
import Tablesmith.Text.Word
import Tablesmith.Validation.Checked
import Tablesmith.Validation.Issue
import Tablesmith.Validation.Scalar
import Tablesmith.Value.Basic
import Tablesmith.Value.Part
import Tablesmith.Workspace.Operation
import Tablesmith.Workspace.Service
import Tablesmith.Workspace.Store
import Tablesmith.Yaml.Cursor
import Tablesmith.Yaml.Failure
import Tablesmith.Yaml.Node
import Tablesmith.Yaml.Number
import Tablesmith.Yaml.Property
import Tablesmith.Yaml.Scalar
import Tablesmith.Yaml.Schema
import Tablesmith.Yaml.Tag
import Tablesmith.Yaml.Token
import Tablesmith.Proofs.Workspace.Step
import Tablesmith.Proofs.Workspace.History
import Tablesmith.Proofs.Text.Case
import Tablesmith.Proofs.Sql.LineEnding
import Tablesmith.Proofs.Sql.Shape
import Tablesmith.Proofs.Text.Encoding
import Tablesmith.Proofs.FrontEnd.Service
import Tablesmith.Proofs.FrontEnd.CommandLine
import Tablesmith.Proofs.FrontEnd.Agreement
import Tablesmith.Proofs.Text.OneLine
import Tablesmith.Proofs.Naming.Spelling
import Tablesmith.Proofs.Module.Definition
import Tablesmith.Proofs.Module.Layout
import Tablesmith.Proofs.Sql.Grammar
import Tablesmith.Proofs.Workspace.Isolation
import Tablesmith.Proofs.Sql.Spans
import Tablesmith.Proofs.Sql.Skipping
import Tablesmith.Proofs.Module.Names
import Tablesmith.Proofs.Server.Rejection
import Tablesmith.Proofs.Workspace.Registry
import Tablesmith.Proofs.Workspace.Shared
import Tablesmith.Proofs.Workspace.Loop
import Tablesmith.Proofs.Schema.Marks
import Tablesmith.Proofs.Sql.Factorisation
import Tablesmith.Proofs.Sql.Refinement
import Tablesmith.Proofs.Text.Lines
import Tablesmith.Proofs.Sql.LineBreak
import Tablesmith.Proofs.Sql.Cutting
import Tablesmith.Proofs.Sql.Separation
import Tablesmith.Proofs.Text.Part
import Tablesmith.Proofs.Sql.Contribution
import Tablesmith.Proofs.Sql.Constraint
import Tablesmith.Proofs.Sql.NormalForm
import Tablesmith.Proofs.Interleave
import Tablesmith.Proofs.Text.Category
import Tablesmith.Proofs.Naming.Validity
import Tablesmith.Proofs.Module.Parameters
import Tablesmith.Proofs.Schema.Reference
import Tablesmith.Proofs.Sql.DatabaseLine
import Tablesmith.Proofs.Source.Literal
import Tablesmith.Proofs.Source.Line
import Tablesmith.Proofs.Source.Call
import Tablesmith.Proofs.Source.Name
import Tablesmith.Proofs.Source.Mention
import Tablesmith.Proofs.Module.Execution
import Tablesmith.Proofs.Module.Alignment
import Tablesmith.Proofs.Module.Placeholder
import Tablesmith.Proofs.Module.Hiding
import Tablesmith.Proofs.Schema.ByName
import Tablesmith.Proofs.Module.RowKey
import Tablesmith.Proofs.Module.Results
import Tablesmith.Proofs.Module.Database
import Tablesmith.Proofs.Module.Extension
import Tablesmith.Proofs.Config.Loading
import Tablesmith.Proofs.FrontEnd.Outcome
import Tablesmith.Proofs.Schema.UnknownMode
import Tablesmith.Proofs.Naming.Numbering
import Tablesmith.Proofs.Naming.Normalisation
import Tablesmith.Proofs.Module.Padding
import Tablesmith.Proofs.Source.Atom
import Tablesmith.Proofs.Source.Quotation
import Tablesmith.Proofs.Module.Quotation

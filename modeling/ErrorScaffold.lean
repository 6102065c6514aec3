import ErrorScaffold.Text.Ranges
import ErrorScaffold.Text.WordChar
import ErrorScaffold.Text.Printable
import ErrorScaffold.Text.Quoted
import ErrorScaffold.Text.Split
import ErrorScaffold.Text.Utf8
import ErrorScaffold.Text.JsonString
import ErrorScaffold.Decimal.Binary64
import ErrorScaffold.Decimal.Shortest
import ErrorScaffold.Identifier
import ErrorScaffold.Schema.Field
import ErrorScaffold.HeaderError
import ErrorScaffold.Catalog
import ErrorScaffold.Schema
import ErrorScaffold.Header
import ErrorScaffold.OrdinalListing
import ErrorScaffold.UsableSchema
import ErrorScaffold.Report
import ErrorScaffold.CompilerOutput
import ErrorScaffold.Skeleton
import ErrorScaffold.Page.Entity
import ErrorScaffold.Page.Element
import ErrorScaffold.Page.Table
import ErrorScaffold.Page.TagName
import ErrorScaffold.TagFile
import ErrorScaffold.SystemFault
import ErrorScaffold.Url.Percent
import ErrorScaffold.Url
import ErrorScaffold.ReferencePage
import ErrorScaffold.Toml.Value
import ErrorScaffold.Toml.Scan
import ErrorScaffold.Toml.Text
import ErrorScaffold.Toml.Number
import ErrorScaffold.Toml.DateTime
import ErrorScaffold.Toml.Draft
import ErrorScaffold.Toml.Document
import ErrorScaffold.Config.Fault
import ErrorScaffold.Config
import ErrorScaffold.CommandLine.Option
import ErrorScaffold.CommandLine.Reading
import ErrorScaffold.CommandLine
import ErrorScaffold.FileStore
import ErrorScaffold.Host
import ErrorScaffold.Run
import ErrorScaffold.Program
import ErrorScaffold.Main
import ErrorScaffold.Proofs.Identifier.Word
import ErrorScaffold.Proofs.Identifier.Grammar
import ErrorScaffold.Proofs.Catalog.Admission
import ErrorScaffold.Proofs.Catalog.Ordinals
import ErrorScaffold.Proofs.Report.Meaning
import ErrorScaffold.Proofs.Text.LineForm
import ErrorScaffold.Proofs.Text.Tokens
import ErrorScaffold.Proofs.Header.Layout
import ErrorScaffold.Proofs.Header.Acceptance
import ErrorScaffold.Proofs.Header.Refusal
import ErrorScaffold.Proofs.Header.Pairs
import ErrorScaffold.Proofs.Header.Words
import ErrorScaffold.Proofs.Header.Expansion
import ErrorScaffold.Proofs.Header.ScopeNames
import ErrorScaffold.Proofs.Header.Determined
import ErrorScaffold.Proofs.Header.Preprocessing
import ErrorScaffold.Proofs.Header.Views
import ErrorScaffold.Proofs.Header.Statements
import ErrorScaffold.Proofs.Header.Capture
import ErrorScaffold.Proofs.Config.Parsing
import ErrorScaffold.Proofs.Page.Listing
import ErrorScaffold.Proofs.Page.Extraction
import ErrorScaffold.Proofs.Page.Marking
import ErrorScaffold.Proofs.Command.Atomic
import ErrorScaffold.Proofs.Command.Generation
import ErrorScaffold.Proofs.Command.Listing
import ErrorScaffold.Proofs.CompilerOutput.Preference
import ErrorScaffold.Proofs.CompilerOutput.Shortened
import ErrorScaffold.Proofs.TagFile.Initializer
import ErrorScaffold.Proofs.TagFile.Canonical
import ErrorScaffold.Proofs.Page.Cursor
import ErrorScaffold.Proofs.Command.Flags
import ErrorScaffold.Proofs.Header.Appending
import ErrorScaffold.Proofs.Header.Budget
import ErrorScaffold.Proofs.Identifier.Prefixed
import ErrorScaffold.Proofs.Schema.Checking

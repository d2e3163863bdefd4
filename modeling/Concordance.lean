import Concordance.Accent.Directive
import Concordance.CommandLine.Arguments
import Concordance.CommandLine.Run
import Concordance.Corpus.Reference
import Concordance.Corpus.Reply
import Concordance.Corpus.Token
import Concordance.Decimal.Layout
import Concordance.Decimal.Numeral
import Concordance.Decimal.Places
import Concordance.Decimal.Shortest
import Concordance.Json.Notation
import Concordance.Json.Reader
import Concordance.Json.Value
import Concordance.Json.Writer
import Concordance.Main
import Concordance.Paging.Pager
import Concordance.Paging.Rehearsal
import Concordance.Pattern.Compile
import Concordance.Pattern.Equivalence
import Concordance.Pattern.Found
import Concordance.Pattern.Group
import Concordance.Pattern.Language
import Concordance.Pattern.Placement
import Concordance.Pattern.Search
import Concordance.Pattern.Word
import Concordance.Proofs.Accent.Coverage
import Concordance.Proofs.Accent.Grammar
import Concordance.Proofs.Accent.Interchange
import Concordance.Proofs.Accent.Redeclaration
import Concordance.Proofs.CommandLine.Lines
import Concordance.Proofs.CommandLine.Runs
import Concordance.Proofs.Corpus.Acceptance
import Concordance.Proofs.Corpus.Ambiguity
import Concordance.Proofs.Corpus.Grouping
import Concordance.Proofs.Corpus.Joining
import Concordance.Proofs.FirstSeen
import Concordance.Proofs.Json.FieldTexts
import Concordance.Proofs.Paging.Overlap
import Concordance.Proofs.Paging.Script
import Concordance.Proofs.Paging.Serving
import Concordance.Proofs.Paging.Supply
import Concordance.Proofs.Pattern.Alike
import Concordance.Proofs.Pattern.Capture
import Concordance.Proofs.Pattern.ClassOrder
import Concordance.Proofs.Pattern.Comparison
import Concordance.Proofs.Pattern.Components
import Concordance.Proofs.Pattern.Ignoring
import Concordance.Proofs.Pattern.Interweave
import Concordance.Proofs.Pattern.Leftmost
import Concordance.Proofs.Pattern.Longest
import Concordance.Proofs.Pattern.Readability
import Concordance.Proofs.Pattern.Scan
import Concordance.Proofs.Pattern.Sharing
import Concordance.Proofs.Pattern.Strip
import Concordance.Proofs.Pattern.Text
import Concordance.Proofs.Pattern.Threading
import Concordance.Proofs.Pattern.WholeLine
import Concordance.Proofs.Schema.Rewording
import Concordance.Proofs.Search.Account
import Concordance.Proofs.Search.Agreement
import Concordance.Proofs.Search.Ahead
import Concordance.Proofs.Search.Course
import Concordance.Proofs.Search.Keeping
import Concordance.Proofs.Search.Ledger
import Concordance.Proofs.Search.Limits
import Concordance.Proofs.Search.Losses
import Concordance.Proofs.Search.Pages
import Concordance.Proofs.Search.Questions
import Concordance.Proofs.Search.Refusal
import Concordance.Proofs.Search.Restart
import Concordance.Proofs.Search.Results
import Concordance.Proofs.Search.Setbacks
import Concordance.Proofs.Search.Thrift
import Concordance.Proofs.Search.Tour
import Concordance.Proofs.Search.WholeWord
import Concordance.Proofs.Store.Answers
import Concordance.Proofs.Store.Literal
import Concordance.Proofs.Store.Reading
import Concordance.Proofs.Telemetry.Provenance
import Concordance.Proofs.Telemetry.Secrecy
import Concordance.Proofs.Telemetry.Tally
import Concordance.Schema.Check
import Concordance.Search.Confirm
import Concordance.Search.Request
import Concordance.Search.Session
import Concordance.Search.Source
import Concordance.Search.Walk
import Concordance.Settings
import Concordance.Settings.Dotenv
import Concordance.Settings.Value
import Concordance.Store.Failure
import Concordance.Store.Http
import Concordance.Store.Query
import Concordance.Telemetry.Activity
import Concordance.Telemetry.Context
import Concordance.Telemetry.Level
import Concordance.Telemetry.LogValue
import Concordance.Telemetry.Metrics
import Concordance.Telemetry.Record
import Concordance.Telemetry.Span
import Concordance.Telemetry.Template
import Concordance.Telemetry.Timestamp
import Concordance.Text.Alphanumeric
import Concordance.Text.Blank
import Concordance.Text.CodeRange
import Concordance.Text.Digit
import Concordance.Text.Encoding
import Concordance.Text.LetterCase
import Concordance.Text.Mark
import Concordance.Text.Printable
import Concordance.Text.Quoted
import Concordance.Text.Slice
import Concordance.Text.Utf8
import Concordance.Proofs.Pattern.Compile

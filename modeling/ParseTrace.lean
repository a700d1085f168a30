import ParseTrace.Background
import ParseTrace.Calendar
import ParseTrace.Capture.Archive
import ParseTrace.Capture.Draft
import ParseTrace.Capture.Fields
import ParseTrace.Capture.Visit
import ParseTrace.CommandLine.Json
import ParseTrace.CommandLine.Request
import ParseTrace.CommandLine.Run
import ParseTrace.CommandLine.View
import ParseTrace.Delimited.Reader
import ParseTrace.Delimited.Writer
import ParseTrace.Duration
import ParseTrace.FileTree
import ParseTrace.Input.Fragments
import ParseTrace.Input.Text
import ParseTrace.JsonValue
import ParseTrace.Latch
import ParseTrace.Load.Poll
import ParseTrace.Load.Tracker
import ParseTrace.Main
import ParseTrace.Numeral.Binary64
import ParseTrace.Numeral.Fixed
import ParseTrace.Numeral.Integer
import ParseTrace.Numeral.Notation
import ParseTrace.Numeral.Rounding
import ParseTrace.Numeral.Shortest
import ParseTrace.Proofs.Capture.Delivery
import ParseTrace.Proofs.Capture.Grammar
import ParseTrace.Proofs.Capture.Recording
import ParseTrace.Proofs.Capture.RoundTrip
import ParseTrace.Proofs.Capture.Visiting
import ParseTrace.Proofs.Capture.Written
import ParseTrace.Proofs.CommandLine.NodeView
import ParseTrace.Proofs.CommandLine.Reports
import ParseTrace.Proofs.CommandLine.TreeView
import ParseTrace.Proofs.Delimited.RoundTrip
import ParseTrace.Proofs.Duration
import ParseTrace.Proofs.Input.Bytes
import ParseTrace.Proofs.Input.Extraction
import ParseTrace.Proofs.Input.Fragments
import ParseTrace.Proofs.Input.LineScan
import ParseTrace.Proofs.Input.Lines
import ParseTrace.Proofs.Input.Partition
import ParseTrace.Proofs.Input.Pieces
import ParseTrace.Proofs.Input.Positions
import ParseTrace.Proofs.Input.Spans
import ParseTrace.Proofs.Load.Cells
import ParseTrace.Proofs.Load.Changes
import ParseTrace.Proofs.Load.History
import ParseTrace.Proofs.Load.Lifecycle
import ParseTrace.Proofs.Load.Sampling
import ParseTrace.Proofs.Load.Watching
import ParseTrace.Proofs.Numeral.Accuracy
import ParseTrace.Proofs.Numeral.Grammar
import ParseTrace.Proofs.Numeral.RoundTrip
import ParseTrace.Proofs.Refresh.Barrier
import ParseTrace.Proofs.Refresh.Handles
import ParseTrace.Proofs.Session.Closing
import ParseTrace.Proofs.Session.Opening
import ParseTrace.Proofs.Session.Registry
import ParseTrace.Proofs.Session.Requests
import ParseTrace.Proofs.Session.Shutdown
import ParseTrace.Proofs.Settings
import ParseTrace.Proofs.Since
import ParseTrace.Proofs.Statistics.Agreement
import ParseTrace.Proofs.Statistics.Depths
import ParseTrace.Proofs.Statistics.Monotone
import ParseTrace.Proofs.Statistics.RuleTable
import ParseTrace.Proofs.Statistics.Tables
import ParseTrace.Proofs.Store.Ancestors
import ParseTrace.Proofs.Store.Appended
import ParseTrace.Proofs.Store.Chain
import ParseTrace.Proofs.Store.Check
import ParseTrace.Proofs.Store.ChildNodes
import ParseTrace.Proofs.Store.Closed
import ParseTrace.Proofs.Store.Closing
import ParseTrace.Proofs.Store.DraftTree
import ParseTrace.Proofs.Store.Exactness
import ParseTrace.Proofs.Store.Exhaustion
import ParseTrace.Proofs.Store.Expansion
import ParseTrace.Proofs.Store.Gathering
import ParseTrace.Proofs.Store.Growth
import ParseTrace.Proofs.Store.Ingestion
import ParseTrace.Proofs.Store.Interruption
import ParseTrace.Proofs.Store.Invariant
import ParseTrace.Proofs.Store.LastNumber
import ParseTrace.Proofs.Store.LookUp
import ParseTrace.Proofs.Store.Persistence
import ParseTrace.Proofs.Store.Placement
import ParseTrace.Proofs.Store.Preorder
import ParseTrace.Proofs.Store.Reach
import ParseTrace.Proofs.Store.Reading
import ParseTrace.Proofs.Store.Rejection
import ParseTrace.Proofs.Store.Reloading
import ParseTrace.Proofs.Store.Run
import ParseTrace.Proofs.Store.Splitting
import ParseTrace.Proofs.Store.Step
import ParseTrace.Proofs.Store.Subtree
import ParseTrace.Proofs.Store.Transaction
import ParseTrace.Proofs.Store.Writing
import ParseTrace.Proofs.Subscription
import ParseTrace.Proofs.Text.ByteOrder
import ParseTrace.Proofs.Text.ClosedLines
import ParseTrace.Proofs.Text.Escaping
import ParseTrace.Refresh
import ParseTrace.Session.Basic
import ParseTrace.Session.Registry
import ParseTrace.Session.Request
import ParseTrace.Settings
import ParseTrace.Statistics.Depth
import ParseTrace.Statistics.Rate
import ParseTrace.Statistics.Report
import ParseTrace.Statistics.Tally
import ParseTrace.Store.Append
import ParseTrace.Store.Basic
import ParseTrace.Store.Batches
import ParseTrace.Store.Creation
import ParseTrace.Store.Ingest
import ParseTrace.Store.Lookup
import ParseTrace.Store.Operation
import ParseTrace.Store.Schema
import ParseTrace.Store.Tree
import ParseTrace.Subscription
import ParseTrace.Text.Blank
import ParseTrace.Text.Column
import ParseTrace.Text.Control
import ParseTrace.Text.Line
import ParseTrace.Text.LineScan
import ParseTrace.Text.Literal
import ParseTrace.Text.Style
import ParseTrace.Text.Units16
import ParseTrace.Text.Units8
import ParseTrace.Text.Unprintable
import ParseTrace.Text.Utf8
import ParseTrace.Toml.Document
import ParseTrace.Toml.Scanner
import ParseTrace.Toml.Text
import ParseTrace.Toml.Value
import ParseTrace.Trace.Error
import ParseTrace.Trace.Header
import ParseTrace.Trace.Invocation
import ParseTrace.Trace.Kind
import ParseTrace.Trace.Outcome
import ParseTrace.Trace.Rule
import ParseTrace.Zip.Container
import ParseTrace.Zip.EndRecord
import ParseTrace.Zip.Inflate

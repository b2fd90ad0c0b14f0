import LogAssay.Act
import LogAssay.Attachment
import LogAssay.Buffer
import LogAssay.Capture.Basic
import LogAssay.Capture.Expectation
import LogAssay.Capture.Hook
import LogAssay.Cause
import LogAssay.Diagnostic
import LogAssay.Directory
import LogAssay.Dispatch.Dispatcher
import LogAssay.Dispatch.Hub
import LogAssay.Dispatch.Record
import LogAssay.Fault
import LogAssay.Logger.Event
import LogAssay.Logger.Tree
import LogAssay.Matcher
import LogAssay.Metadata.Agreement
import LogAssay.Metadata.Basic
import LogAssay.Metadata.Block
import LogAssay.Metadata.Decode
import LogAssay.Metadata.Encode
import LogAssay.Metadata.Escape
import LogAssay.Metadata.Scan
import LogAssay.Number.Binary64
import LogAssay.Number.Decimal
import LogAssay.Number.Reader
import LogAssay.Number.Scaled
import LogAssay.Number.Shortest
import LogAssay.Pattern.Basic
import LogAssay.Pattern.Reader
import LogAssay.Predicate
import LogAssay.Probe.Basic
import LogAssay.Probe.Script
import LogAssay.Query.Basic
import LogAssay.Query.Script
import LogAssay.Record
import LogAssay.Registry
import LogAssay.Session.Basic
import LogAssay.Session.Command
import LogAssay.Session.Surroundings
import LogAssay.Settings.Basic
import LogAssay.Settings.Levels
import LogAssay.Severity
import LogAssay.Severity.Request
import LogAssay.Site
import LogAssay.Support
import LogAssay.Tags
import LogAssay.Template
import LogAssay.TestId
import LogAssay.TestId.Pool
import LogAssay.Text.Blank
import LogAssay.Text.Casing
import LogAssay.Text.Digit
import LogAssay.Text.Hex
import LogAssay.Text.Literal
import LogAssay.Text.Printable
import LogAssay.Text.Ranges
import LogAssay.Text.Split
import LogAssay.Text.Word
import LogAssay.Threshold
import LogAssay.Timestamp
import LogAssay.Value
import LogAssay.Proofs.Capture.Counting
import LogAssay.Proofs.Capture.Installing
import LogAssay.Proofs.Capture.Isolation
import LogAssay.Proofs.Capture.Lab
import LogAssay.Proofs.Capture.Scopes
import LogAssay.Proofs.Logger.Delivery
import LogAssay.Proofs.Logger.Hearing
import LogAssay.Proofs.Logger.Ledger
import LogAssay.Proofs.Logger.Overrides
import LogAssay.Proofs.Logger.Path
import LogAssay.Proofs.Logger.Roster
import LogAssay.Proofs.Logger.Routing
import LogAssay.Proofs.Logger.Stations
import LogAssay.Proofs.Metadata.Decoding
import LogAssay.Proofs.Metadata.Grammar
import LogAssay.Proofs.Metadata.Roundtrip
import LogAssay.Proofs.Number.Shortest
import LogAssay.Proofs.Number.Text
import LogAssay.Proofs.Session.Archive
import LogAssay.Proofs.Session.Blocks
import LogAssay.Proofs.Session.Capturing
import LogAssay.Proofs.Session.Logging
import LogAssay.Proofs.Session.Quiet
import LogAssay.Proofs.TestId.Claiming
import LogAssay.Proofs.Capture.Unwinding
import LogAssay.Proofs.TestId.Holding
import LogAssay.Proofs.Session.Rollback
import LogAssay.Proofs.Capture.Overlap
import LogAssay.Proofs.Logger.Annotating
import LogAssay.Proofs.Metadata.Failing
import LogAssay.Proofs.Metadata.Writing
import LogAssay.Proofs.Metadata.Reencoding
import LogAssay.Proofs.Metadata.Joining
import LogAssay.Proofs.Metadata.Stacking
import LogAssay.Proofs.Attachment.Bench
import LogAssay.Proofs.Attachment.Lifecycle
import LogAssay.Proofs.Capture.Verification
import LogAssay.Proofs.Dispatch.Levels
import LogAssay.Proofs.Dispatch.Lowering
import LogAssay.Proofs.Query.Chains
import LogAssay.Proofs.Query.Boolean
import LogAssay.Proofs.Probe.Stages
import LogAssay.Proofs.Probe.Grading
import LogAssay.Proofs.Dispatch.Conduct
import LogAssay.Proofs.Session.Dispatching
import LogAssay.Proofs.Query.Fragments
import LogAssay.Proofs.Site.Attribution
import LogAssay.Proofs.Registry.Choosing
import LogAssay.Proofs.Session.Requesting
import LogAssay.Proofs.Metadata.Unescaping
import LogAssay.Proofs.Metadata.Reporting
import LogAssay.Proofs.Query.Narrowing
import LogAssay.Proofs.Query.Ordering
import LogAssay.Proofs.Number.Comparison
import LogAssay.Proofs.Threshold.Coherence
import LogAssay.Proofs.Threshold.Gates
import LogAssay.Proofs.Capture.Precedence
import LogAssay.Proofs.Agreement.Numbers
import LogAssay.Proofs.Agreement.Stamping
import LogAssay.Proofs.Dispatch.Threads
import LogAssay.Proofs.Timestamp.Calendar
import LogAssay.Proofs.Dispatch.Converting
import LogAssay.Proofs.Dispatch.Renderings
import LogAssay.Proofs.Dispatch.Keeping
import LogAssay.Proofs.Dispatch.Refusing
import LogAssay.Proofs.Logger.Interference
import LogAssay.Proofs.Logger.Appending
import LogAssay.Proofs.Record.Lines
import LogAssay.Proofs.Query.Places
import LogAssay.Proofs.Settings.Checking
import LogAssay.Proofs.Site.Warnings
import LogAssay.Proofs.Buffer.History
import LogAssay.Proofs.Buffer.Memory

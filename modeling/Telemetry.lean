import Telemetry.Attribute
import Telemetry.Decimal.Double
import Telemetry.Decimal.Integer
import Telemetry.Decimal.Shortest
import Telemetry.Delivery
import Telemetry.Delivery.Block
import Telemetry.Delivery.BoundedSink
import Telemetry.Delivery.Sink
import Telemetry.Diagnostic
import Telemetry.Document
import Telemetry.ExportError
import Telemetry.Exporter
import Telemetry.Exporter.Builder
import Telemetry.Identifier
import Telemetry.Instant
import Telemetry.Json
import Telemetry.Json.Piece
import Telemetry.Json.Reader
import Telemetry.Limits
import Telemetry.Log
import Telemetry.Log.Document
import Telemetry.Metric
import Telemetry.Metric.Document
import Telemetry.Proofs.Attribute
import Telemetry.Proofs.Decimal.Digits
import Telemetry.Proofs.Decimal.Double
import Telemetry.Proofs.Decimal.Interval
import Telemetry.Proofs.Decimal.Layout
import Telemetry.Proofs.Delivery.Accepting
import Telemetry.Proofs.Delivery.Blame
import Telemetry.Proofs.Delivery.Calls
import Telemetry.Proofs.Delivery.Crash
import Telemetry.Proofs.Delivery.Faithful
import Telemetry.Proofs.Document
import Telemetry.Proofs.Document.Composition
import Telemetry.Proofs.Document.Items
import Telemetry.Proofs.Document.Limits
import Telemetry.Proofs.Document.Nulls
import Telemetry.Proofs.Document.Presence
import Telemetry.Proofs.Document.Unsupported
import Telemetry.Proofs.Document.WellFormed
import Telemetry.Proofs.Exporter.Diagnostics
import Telemetry.Proofs.Exporter.Lifecycle
import Telemetry.Proofs.Exporter.Recordings
import Telemetry.Proofs.Exporter.Reordering
import Telemetry.Proofs.Exporter.Run
import Telemetry.Proofs.Exporter.Stream
import Telemetry.Proofs.Identifier
import Telemetry.Proofs.Instant.Reading
import Telemetry.Proofs.Json.Fields
import Telemetry.Proofs.Json.Gap
import Telemetry.Proofs.Json.Members
import Telemetry.Proofs.Json.Number
import Telemetry.Proofs.Json.Printing
import Telemetry.Proofs.Json.RoundTrip
import Telemetry.Proofs.Json.Stream
import Telemetry.Proofs.Json.Tree
import Telemetry.Proofs.Limits.Reading
import Telemetry.Proofs.Limits.Resolution
import Telemetry.Proofs.Log.Body
import Telemetry.Proofs.Log.Nulls
import Telemetry.Proofs.Log.Unsupported
import Telemetry.Proofs.Log.View
import Telemetry.Proofs.Metric.Regular
import Telemetry.Proofs.Metric.Unsupported
import Telemetry.Proofs.Metric.View
import Telemetry.Proofs.Recording.Collection
import Telemetry.Proofs.Recording.Losses
import Telemetry.Proofs.Recording.Resource
import Telemetry.Proofs.Recording.Unsupported
import Telemetry.Proofs.Scope
import Telemetry.Proofs.Scope.Cursor
import Telemetry.Proofs.Scope.Grouping
import Telemetry.Proofs.Span.Lists
import Telemetry.Proofs.Span.Presence
import Telemetry.Proofs.Span.Times
import Telemetry.Proofs.Span.Unsupported
import Telemetry.Proofs.Span.View
import Telemetry.Proofs.Text.Blank
import Telemetry.Proofs.Text.Order
import Telemetry.Proofs.Text.Truncation
import Telemetry.Proofs.Text.Utf8
import Telemetry.Proofs.Value.Integer
import Telemetry.Proofs.Value.Shortening
import Telemetry.Proofs.Value.Standard
import Telemetry.Proofs.Value.Unsupported
import Telemetry.Proofs.Value.View
import Telemetry.Recording.Collection
import Telemetry.Recording.Instrument
import Telemetry.Recording.Joining
import Telemetry.Recording.Log
import Telemetry.Recording.Resource
import Telemetry.Recording.Series
import Telemetry.Recording.Span
import Telemetry.Scope
import Telemetry.Scope.Cursor
import Telemetry.Severity
import Telemetry.Span
import Telemetry.Span.Document
import Telemetry.Text.Blank
import Telemetry.Text.Hex
import Telemetry.Text.Slicing
import Telemetry.Text.Truncation
import Telemetry.Text.Utf8
import Telemetry.Value
import Telemetry.Value.Encoding
import Telemetry.Value.Integer
import Telemetry.Value.LogValue
import Telemetry.Value.Standard
